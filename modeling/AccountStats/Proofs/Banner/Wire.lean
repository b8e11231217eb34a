import Mathlib.Tactic
import AccountStats.Banner.Channel
import AccountStats.Proofs.Account.Wire
import AccountStats.Proofs.Program.Running
/-
Banners and their events are read back from JSON as they were written.

Results:
- `undoes_json` of banners and of events;
- `runs_publishOn`: one message is published, from which its receivers read the event back;
- `records_readBack`: all that is written as JSON, from its text.
-/
namespace AccountStats

open AccountStats.Json

namespace Banner

theorem Layout.undoes_json : Undoes Layout.ofJson? Layout.toJson where
  plain l := .text l.name
  reads l := by
    cases l
    rfl

theorem undoes_json : Undoes ofJson? toJson where
  plain b := by
    refine .record ?_
    simp [undoes_text.plain, Layout.undoes_json.plain, Stats.undoes_json.plain, undoes_instant.plain]
  reads b := by
    rw [ofJson?, toJson, slots_record (by rfl) (by decide +kernel)]
    simp only [List.map_cons, List.map_nil, Slot.required, undoes_text.reads, Layout.undoes_json.reads,
      Stats.undoes_json.reads, undoes_instant.reads, Option.bind_eq_bind, Option.bind_some]
    rfl

theorem Event.undoes_json : Undoes Event.ofJson? Event.toJson where
  plain e := by
    refine .record ?_
    simp [undoes_text.plain, undoes_uint32.plain, undoes_instant.plain, Banner.undoes_json.plain]
  reads e := by
    rw [Event.ofJson?, Event.toJson, slots_record (by rfl) (by decide +kernel)]
    simp only [List.map_cons, List.map_nil, Slot.required, undoes_text.reads, undoes_uint32.reads,
      undoes_instant.reads, Banner.undoes_json.reads, Option.bind_eq_bind, Option.bind_some]
    rfl

/-- **One message is published, from which its receivers read the event back.** The event counts as published also where
nobody has received it. -/
theorem runs_publishOn {channel : String} {event : Event} {es : List (Program.Exchange Redis.Calls)}
    {result : Except PublishError Unit} (h : (publishOn channel event).Runs es result) :
    ∃ text reply notes, es = ⟨.publish channel text, reply⟩ :: notes.map (fun n => ⟨.note n, ()⟩) ∧
      readText text >>= Event.ofJson? = some event ∧
      ((∃ e, reply = .error e ∧ result = .error (.delivery e)) ∨
        ∃ receivers, reply = .ok receivers ∧ result = .ok () ∧ (receivers = 0 → notes =
          [.warn "Banner event had no subscribers" [("channel", channel), ("username", event.payload.username)]])) := by
  obtain ⟨reply, fs, rfl, hnext⟩ := Program.runs_ask.1 h
  have hread : readText event.toJson.render >>= Event.ofJson? = some event := Event.undoes_json.readText_render event
  cases reply with
  | error e =>
    obtain ⟨rfl, rfl⟩ := Program.runs_done.1 hnext
    exact ⟨_, _, [], rfl, hread, .inl ⟨e, rfl, rfl⟩⟩
  | ok n =>
    cases n with
    | zero =>
      obtain ⟨⟨⟩, fs, rfl, hnoted⟩ := Program.runs_ask.1 hnext
      obtain ⟨rfl, rfl⟩ := Program.runs_done.1 hnoted
      exact ⟨_, _, [_], rfl, hread, .inr ⟨0, rfl, rfl, fun _ => rfl⟩⟩
    | succ n =>
      obtain ⟨⟨⟩, fs, rfl, hnoted⟩ := Program.runs_ask.1 hnext
      obtain ⟨rfl, rfl⟩ := Program.runs_done.1 hnoted
      exact ⟨_, _, [_], rfl, hread, .inr ⟨n + 1, rfl, rfl, nofun⟩⟩

end Banner

/-- **Each record is read back from its text.** -/
theorem records_readBack :
    (∀ r : Repository, readText r.toJson.render >>= Repository.ofJson? = some r) ∧
    (∀ s : Snapshot, readText s.toJson.render >>= Snapshot.ofJson? = some s) ∧
    (∀ s : Stats, readText s.toJson.render >>= Stats.ofJson? = some s) ∧
    (∀ e : Entry, readText e.toJson.render >>= Entry.ofJson? = some e) ∧
    (∀ b : Banner, readText b.toJson.render >>= Banner.ofJson? = some b) ∧
    ∀ e : Banner.Event, readText e.toJson.render >>= Banner.Event.ofJson? = some e :=
  ⟨Repository.undoes_json.readText_render, Snapshot.undoes_json.readText_render, Stats.undoes_json.readText_render,
    Entry.undoes_json.readText_render, Banner.undoes_json.readText_render, Banner.Event.undoes_json.readText_render⟩

end AccountStats
