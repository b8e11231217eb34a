import Mathlib.Tactic
import AccountStats.Json.Shape
import AccountStats.Proofs.Json.RoundTrip
import AccountStats.Proofs.Time.Rfc3339
/-
Values of fixed shape are read back as they were written.

`Undoes read write` says that every value is written in full and that `read` gives it back. It holds of the plain types,
passes to lists, and passes to a record when it holds of each field, since every field is found under its name. A field
that may be nothing is read back if nothing else is written as `null`. Results:
- `Undoes.readText_render`: what was written is read back from its text;
- `slots_record`: a record holds what was written for each field, if no two have one name;
- `Slot.optional_ofOption`: nothing and something are told apart.
-/
namespace AccountStats.Json

variable {α : Type} {read : Json → Option α} {write : α → Json} {members : List (String × Json)} {m : String × Json}

/-- values are written in full, and reading gives them back -/
structure Undoes (read : Json → Option α) (write : α → Json) : Prop where
  plain (a : α) : Plain (write a)
  reads (a : α) : read (write a) = some a

/-- **What was written is read back from its text.** -/
theorem Undoes.readText_render (h : Undoes read write) (a : α) : readText (write a).render >>= read = some a := by
  rw [Json.readText_render (h.plain a)]
  exact h.reads a

/-! ## Plain types -/

theorem undoes_text : Undoes string? text := ⟨.text, fun _ => rfl⟩

theorem undoes_bool : Undoes bool? bool := ⟨.bool, fun _ => rfl⟩

theorem within?_int {low high n : Int} (h : low ≤ n ∧ n ≤ high) : within? low high (int n) = some n := by
  rw [int, within?, if_pos h]

theorem undoes_int64 : Undoes int64? fun n => int n.toInt where
  plain n := .int (Int64.le_toInt n) ((Int64.toInt_lt n).trans (by decide))
  reads n := by
    rw [int64?, within?_int ⟨Int64.minValue_le_toInt n, Int64.toInt_le n⟩, Option.map_some, Int64.ofInt_toInt]

theorem undoes_int32 : Undoes int32? fun n => int n.toInt where
  plain n := .int (le_trans (by decide) (Int32.le_toInt n)) ((Int32.toInt_lt n).trans (by decide))
  reads n := by
    rw [int32?, within?_int ⟨Int32.minValue_le_toInt n, Int32.toInt_le n⟩, Option.map_some, Int32.ofInt_toInt]

theorem uint32_bounds (n : UInt32) : (0 : Int) ≤ n.toNat ∧ (n.toNat : Int) ≤ 4294967295 := by
  have hlt : n.toNat < 4294967296 := n.toNat_lt
  omega

theorem undoes_uint32 : Undoes uint32? fun n => int n.toNat where
  plain n := .int (le_trans (by decide) (uint32_bounds n).1) ((uint32_bounds n).2.trans_lt (by decide))
  reads n := by
    rw [uint32?, within?_int (uint32_bounds n), Option.map_some, Int.toNat_natCast, UInt32.ofNat_toNat]

theorem undoes_instant : Undoes instant? ofInstant where
  plain t := .text (Time.Rfc3339.render t)
  reads t := by
    rw [instant?, ofInstant, text, string?, Option.bind_eq_bind, Option.bind_some, Time.Rfc3339.parse?_render]

/-! ## Lists and maps -/

theorem mapM_map {β γ : Type} {f : γ → Option α} {g : β → γ} {k : β → α} {bs : List β}
    (h : ∀ b ∈ bs, f (g b) = some (k b)) : (bs.map g).mapM f = some (bs.map k) := by
  induction bs with
  | nil => rfl
  | cons b bs ih =>
    obtain ⟨hb, hbs⟩ := List.forall_mem_cons.1 h
    rw [List.map_cons, List.mapM_cons, hb, ih hbs]
    rfl

theorem Undoes.list (h : Undoes read write) : Undoes (list? read) fun xs => array (xs.map write) where
  plain xs := .array (List.forall_mem_map.2 fun x _ => h.plain x)
  reads xs := by
    rw [list?, mapM_map fun x _ => h.reads x, List.map_id']

theorem Undoes.pairs (h : Undoes read write) :
    Undoes (pairs? read) fun ps : List (String × α) => record (ps.map fun (k, a) => (k, write a)) where
  plain ps := .record (List.forall_mem_map.2 fun p _ => h.plain p.2)
  reads ps := by
    rw [record, List.map_map, pairs?, mapM_map (k := id), List.map_id]
    rintro ⟨name, a⟩ -
    simp only [Function.comp_apply, Option.bind_eq_bind, Option.bind_some, h.reads]
    rfl

/-! ## Records -/

theorem filter_named (hnodup : (members.map Prod.fst).Nodup) (hm : m ∈ members) :
    (named members).filter (fun x => x.1 == some m.1) = [(some m.1, m.2)] := by
  induction members with
  | nil => cases hm
  | cons x xs ih =>
    rw [List.map_cons, List.nodup_cons] at hnodup
    obtain ⟨hx, hxs⟩ := hnodup
    have hcons : named (x :: xs) = (some x.1, x.2) :: named xs := rfl
    rw [hcons]
    rcases List.mem_cons.1 hm with rfl | hm
    · have hrest : (named xs).filter (fun x => x.1 == some m.1) = [] := by
        refine List.filter_eq_nil_iff.2 (List.forall_mem_map.2 fun y hy heq => hx ?_)
        exact List.mem_map.2 ⟨y, hy, Option.some.inj (beq_iff_eq.1 heq)⟩
      rw [List.filter_cons, if_pos (beq_self_eq_true (some m.1)), hrest]
    · have hne : x.1 ≠ m.1 := fun heq => hx (heq ▸ List.mem_map_of_mem hm)
      rw [List.filter_cons_of_neg (by simpa using hne), ih hxs hm]

/-- of members with different names, one is found under its name -/
theorem memberSlot_named (hnodup : (members.map Prod.fst).Nodup) (hm : m ∈ members) :
    memberSlot (named members) m.1 = some (.given m.2) := by
  rw [memberSlot, filter_named hnodup hm]

/-- **Fields are found among whatever other members there are**, if no two have one name. -/
theorem slots_of_subset {fields : List (String × Json)} {names : List String} (hnames : fields.map Prod.fst = names)
    (hnodup : (members.map Prod.fst).Nodup) (hfields : fields ⊆ members) :
    slots names (record members) = some (fields.map fun m => .given m.2) := by
  subst hnames
  have hsome : (named members).all (fun m => m.1.isSome) = true := by
    rw [List.all_eq_true]
    exact List.forall_mem_map.2 fun _ _ => rfl
  have hrecord : record members = .object (named members) := rfl
  rw [hrecord, slots, if_pos hsome, mapM_map fun m hm => memberSlot_named hnodup (hfields hm)]

/-- **A record holds what was written for each field.** -/
theorem slots_record {names : List String} (hnames : members.map Prod.fst = names) (hnodup : names.Nodup) :
    slots names (record members) = some (members.map fun m => .given m.2) :=
  slots_of_subset hnames (hnames ▸ hnodup) (List.Subset.refl members)

/-- **Nothing and something are told apart.** -/
theorem Slot.optional_ofOption (h : Undoes read write) (hnull : ∀ a, write a ≠ .null) (o : Option α) :
    (Slot.given (ofOption write o)).optional read = some o := by
  cases o with
  | none => rfl
  | some a =>
    have hgiven : (Slot.given (write a)).optional read = (read (write a)).map some := by
      unfold Slot.optional
      split
      · next heq => exact absurd (Slot.given.inj heq) (hnull a)
      · next heq => rw [Slot.given.inj heq]
      · next heq => cases heq
      · next heq => cases heq
    rw [ofOption, hgiven, h.reads, Option.map_some]

theorem optional_text (o : Option String) : (Slot.given (ofOption text o)).optional string? = some o :=
  Slot.optional_ofOption undoes_text nofun o

theorem optional_instant (o : Option Time.Instant) :
    (Slot.given (ofOption ofInstant o)).optional instant? = some o := by
  refine Slot.optional_ofOption undoes_instant (fun t hnull => ?_) o
  rw [ofInstant, text] at hnull
  cases hnull

theorem Undoes.plain_ofOption (h : Undoes read write) (o : Option α) : Plain (ofOption write o) := by
  cases o with
  | none => exact .null
  | some a => exact h.plain a

end AccountStats.Json
