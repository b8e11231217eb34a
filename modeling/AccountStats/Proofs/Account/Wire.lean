import Mathlib.Tactic
import AccountStats.Account.Wire
import AccountStats.Proofs.Account.Stats
import AccountStats.Proofs.Json.Shape
/-
Accounts and statistics are read back from JSON as they were written.

Every field of a record has a type whose values are read back, the records inside it among them; the fields are found
because no two have one name. Counts by language are the members of an object, and are collected from them again.
`undoes_json` says so of each record.
-/
namespace AccountStats

open AccountStats.Json

namespace Repository

theorem undoes_json : Undoes ofJson? toJson where
  plain r := by
    refine .record ?_
    simp [undoes_int64.plain, undoes_text.plain, undoes_instant.plain_ofOption, undoes_text.plain_ofOption,
      undoes_int32.plain, undoes_bool.plain]
  reads r := by
    rw [ofJson?, toJson, slots_record (by rfl) (by decide +kernel)]
    simp only [List.map_cons, List.map_nil, Slot.required, undoes_int64.reads, undoes_text.reads, undoes_int32.reads,
      undoes_bool.reads, optional_instant, optional_text,
      Option.bind_eq_bind, Option.bind_some]
    rfl

end Repository

namespace Snapshot

theorem undoes_json : Undoes ofJson? toJson where
  plain s := by
    refine .record ?_
    simp [undoes_text.plain, undoes_text.plain_ofOption, undoes_int32.plain, Repository.undoes_json.list.plain,
      undoes_instant.plain]
  reads s := by
    rw [ofJson?, toJson, slots_record (by rfl) (by decide +kernel)]
    simp only [List.map_cons, List.map_nil, Slot.required, undoes_text.reads,
      optional_text, undoes_int32.reads, Repository.undoes_json.list.reads,
      undoes_instant.reads, Option.bind_eq_bind, Option.bind_some]
    rfl

end Snapshot

namespace LanguageCounts

/-- the members are sorted by name as the counts are, so collecting them gives the same counts -/
theorem undoes_json : Undoes ofJson? toJson where
  plain c := undoes_int64.pairs.plain c.entries
  reads c := by
    rw [ofJson?, toJson, undoes_int64.pairs.reads, Option.map_some, ofList_entries]

end LanguageCounts

namespace Stats

theorem undoes_json : Undoes ofJson? toJson where
  plain s := by
    refine .record ?_
    simp [members, undoes_int64.plain, LanguageCounts.undoes_json.plain]
  reads s := by
    rw [ofJson?, toJson, members, slots_record (by rfl) (by decide +kernel)]
    simp only [List.map_cons, List.map_nil, Slot.required, undoes_int64.reads, LanguageCounts.undoes_json.reads,
      Option.bind_eq_bind, Option.bind_some]
    rfl

end Stats

namespace Entry

theorem undoes_json : Undoes ofJson? toJson where
  plain e := by
    refine .record ?_
    simp [Stats.undoes_json.plain, undoes_instant.plain]
  reads e := by
    rw [ofJson?, toJson, slots_record (by rfl) (by decide +kernel)]
    simp only [List.map_cons, List.map_nil, Slot.required, Stats.undoes_json.reads, undoes_instant.reads,
      Option.bind_eq_bind, Option.bind_some]
    rfl

end Entry

end AccountStats
