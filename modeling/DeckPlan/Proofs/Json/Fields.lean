import DeckPlan.Proofs.Json.Access
import Mathlib.Data.List.Nodup
import Mathlib.Data.List.Perm.Basic

/-!
# The order of fields

Writing a field and removing one leave all other fields as they are and where they are
(`filter_put`, `filter_erase`), and they change nothing where there is nothing to change
(`put_eq_self`, `erase_eq_self`). Fields without a repeated key are known from the values of the
keys, up to their order (`perm_of_get?_eq`).
-/

namespace DeckPlan.Fields

variable {fields others : Fields} {key : String} {value : Json}

/-! ## Other fields -/

/-- Setting a field keeps all other ones. -/
theorem filter_put {p : String × Json → Bool} (hp : ∀ value, p (key, value) = false)
    (value : Json) (fields : Fields) : (put key value fields).filter p = fields.filter p := by
  induction fields with
  | nil => rw [put, List.filter_cons_of_neg (by simp [hp])]
  | cons field rest ih =>
    by_cases h : field.1 = key
    · have hfield : p field = false := by
        rw [← hp field.2, ← h]
      rw [put, if_pos h, List.filter_cons_of_neg (by simp [hp]),
        List.filter_cons_of_neg (by simp [hfield])]
    · rw [put, if_neg h, List.filter_cons, List.filter_cons, ih]

/-- Removing a field keeps all other ones. -/
theorem filter_erase {p : String × Json → Bool} (hp : ∀ value, p (key, value) = false)
    (fields : Fields) : (erase key fields).filter p = fields.filter p := by
  rw [erase, List.filter_filter]
  apply List.filter_congr
  intro field _
  by_cases h : field.1 = key
  · have hfield : p field = false := by
      rw [← hp field.2, ← h]
    rw [hfield, Bool.false_and]
  · rw [bne_iff_ne.2 h, Bool.and_true]

/-! ## Nothing to change -/

/-- A field that is set to what it holds stays as it is. -/
theorem put_eq_self (h : get? fields key = some value) : put key value fields = fields := by
  induction fields with
  | nil => cases h
  | cons field rest ih =>
    rw [get?_cons] at h
    by_cases hkey : field.1 = key
    · rw [if_pos hkey] at h
      obtain rfl := Option.some.inj h
      rw [put, if_pos hkey, ← hkey]
    · rw [if_neg hkey] at h
      rw [put, if_neg hkey, ih h]

/-- Removing a field that is not there changes nothing. -/
theorem erase_eq_self (h : get? fields key = none) : erase key fields = fields := by
  rw [erase, List.filter_eq_self]
  intro field hfield
  rw [bne_iff_ne]
  rintro rfl
  obtain ⟨value, hvalue⟩ := exists_get?_of_mem (List.mem_map_of_mem hfield)
  rw [hvalue] at h
  cases h

/-- Of the fields only the one that is written may change. -/
theorem forall₂_put {R : String × Json → String × Json → Prop} {old : Json}
    (hsame : ∀ field, R field field) (h : get? fields key = some old)
    (hfield : R (key, old) (key, value)) : List.Forall₂ R fields (put key value fields) := by
  induction fields with
  | nil => cases h
  | cons field rest ih =>
    rw [get?_cons] at h
    by_cases hkey : field.1 = key
    · rw [if_pos hkey] at h
      obtain rfl := Option.some.inj h
      subst hkey
      rw [put, if_pos rfl]
      exact .cons hfield (List.forall₂_same.2 fun other _ => hsame other)
    · rw [if_neg hkey] at h
      rw [put, if_neg hkey]
      exact .cons (hsame field) (ih h)

/-! ## Fields up to their order -/

/-- Setting a field that is there keeps the order of the keys. -/
theorem keys_put_of_mem (h : key ∈ fields.map Prod.fst) :
    (put key value fields).map Prod.fst = fields.map Prod.fst := by
  induction fields with
  | nil => cases h
  | cons field rest ih =>
    by_cases hkey : field.1 = key
    · rw [put, if_pos hkey, List.map_cons, List.map_cons, hkey]
    · have hrest : key ∈ rest.map Prod.fst :=
        (List.mem_cons.1 h).resolve_left fun heq => hkey heq.symm
      rw [put, if_neg hkey, List.map_cons, List.map_cons, ih hrest]

/-- A field is the one that was written, or it was there before. -/
theorem mem_put {field : String × Json} (h : field ∈ put key value fields) :
    field = (key, value) ∨ field ∈ fields := by
  induction fields with
  | nil => exact .inl (List.mem_singleton.1 h)
  | cons first rest ih =>
    by_cases hkey : first.1 = key
    · rw [put, if_pos hkey] at h
      exact (List.mem_cons.1 h).imp_right (List.mem_cons_of_mem _)
    · rw [put, if_neg hkey] at h
      rcases List.mem_cons.1 h with rfl | hrest
      · exact .inr List.mem_cons_self
      · exact (ih hrest).imp_right (List.mem_cons_of_mem _)

theorem mem_iff_get? (hnodup : (fields.map Prod.fst).Nodup) :
    (key, value) ∈ fields ↔ get? fields key = some value := by
  constructor
  · intro hmem
    obtain ⟨found, hfound⟩ := exists_get?_of_mem (List.mem_map_of_mem hmem)
    -- The key is there once, so what is found is the field itself.
    have heq := List.inj_on_of_nodup_map hnodup (mem_of_get? hfound) hmem rfl
    rw [hfound, (Prod.mk.inj heq).2]
  · exact mem_of_get?

/-- Without repeated keys, the values of all keys tell the fields but not their order. -/
theorem perm_of_get?_eq (hfields : (fields.map Prod.fst).Nodup)
    (hothers : (others.map Prod.fst).Nodup) (h : ∀ key, get? fields key = get? others key) :
    fields.Perm others := by
  rw [List.perm_ext_iff_of_nodup hfields.of_map hothers.of_map]
  rintro ⟨key, value⟩
  rw [mem_iff_get? hfields, mem_iff_get? hothers, h key]

end DeckPlan.Fields
