import DeployOptions.Value.Basic
import Mathlib.Data.List.Forall2

/-! Values that are equal as documents: neither the entries of a mapping nor the items of a set have
an order. What is looked up in mappings that are alike is alike. -/
namespace DeployOptions.Value

mutual

/-- Equal up to the order of mappings and sets, at any depth. -/
inductive Alike : Value → Value → Prop
  | refl (v : Value) : Alike v v
  | list {items items' : List Value} (h : List.Forall₂ Alike items items') :
      Alike (.list items) (.list items')
  | set {items items' : List Value} (h : items.Perm items') : Alike (.set items) (.set items')
  | map {entries ordered entries' : List (Value × Value)} (hperm : entries.Perm ordered)
      (h : List.Forall₂ AlikeEntry ordered entries') : Alike (.map entries) (.map entries')

inductive AlikeEntry : Value × Value → Value × Value → Prop
  | mk {key v v' : Value} (h : Alike v v') : AlikeEntry (key, v) (key, v')

end

variable {v v' : Value} {s : String} {items items' : List Value}
  {entries entries' : List (Value × Value)}

/-- A text is like nothing but itself. -/
theorem Alike.eq_of_str (h : Alike (.str s) v) : v = .str s := by
  cases h
  rfl

theorem Alike.forall₂ (h : Alike (.list items) (.list items')) :
    List.Forall₂ Alike items items' := by
  cases h with
  | refl => exact List.forall₂_same.mpr fun v _ => .refl v
  | list h => exact h

theorem lookup?_cons_self (key : String) (v : Value) (r : List (Value × Value)) :
    lookup? key ((.str key, v) :: r) = some v := if_pos rfl

theorem lookup?_cons_of_ne {k : Value} {key : String} (h : k ≠ .str key) (v : Value)
    (r : List (Value × Value)) : lookup? key ((k, v) :: r) = lookup? key r := by
  cases k with
  | str k => exact if_neg fun hk => h (congrArg Value.str hk)
  | _ => rfl

/-- In a mapping, what is looked up under a key is the value of its one entry. -/
theorem lookup?_eq_some_iff (h : (entries.map Prod.fst).Nodup) {key : String} :
    lookup? key entries = some v ↔ (.str key, v) ∈ entries := by
  induction entries with
  | nil => simp [lookup?]
  | cons e entries ih =>
    obtain ⟨k, w⟩ := e
    rw [List.map_cons, List.nodup_cons] at h
    by_cases hk : k = .str key
    · subst hk
      have hbehind : (.str key, v) ∉ entries := fun hv => h.1 (List.mem_map.mpr ⟨_, hv, rfl⟩)
      rw [lookup?_cons_self, List.mem_cons, or_iff_left hbehind]
      simp [eq_comm]
    · have hfront : (.str key, v) ≠ (k, w) := fun he => hk (congrArg Prod.fst he).symm
      rw [lookup?_cons_of_ne hk, ih h.2, List.mem_cons, or_iff_right hfront]

theorem lookup?_perm (hperm : entries.Perm entries') (h : (entries.map Prod.fst).Nodup)
    (key : String) : lookup? key entries = lookup? key entries' := by
  have h' : (entries'.map Prod.fst).Nodup := (hperm.map Prod.fst).nodup_iff.mp h
  ext v
  rw [lookup?_eq_some_iff h, lookup?_eq_some_iff h', hperm.mem_iff]

private theorem keys_eq (h : List.Forall₂ AlikeEntry entries entries') :
    entries.map Prod.fst = entries'.map Prod.fst := by
  induction h with
  | nil => rfl
  | cons he _ ih =>
    cases he
    simp only [List.map_cons, ih]

private theorem lookup?_rel (h : List.Forall₂ AlikeEntry entries entries') (key : String) :
    Option.Rel Alike (lookup? key entries) (lookup? key entries') := by
  induction h with
  | nil => exact .none
  | cons he _ ih =>
    cases he with
    | @mk k v v' hv =>
      by_cases hk : k = .str key
      · subst hk
        simp only [lookup?_cons_self]
        exact .some hv
      · simpa only [lookup?_cons_of_ne hk] using ih

theorem Alike.lookup? (h : Alike (.map entries) (.map entries'))
    (hkeys : (entries'.map Prod.fst).Nodup) (key : String) :
    Option.Rel Alike (lookup? key entries) (lookup? key entries') := by
  cases h with
  | refl =>
    cases Value.lookup? key entries with
    | none => exact .none
    | some v => exact .some (.refl v)
  | map hperm h =>
    rw [← keys_eq h] at hkeys
    rw [lookup?_perm hperm ((hperm.map Prod.fst).nodup_iff.mpr hkeys)]
    exact lookup?_rel h key

theorem Alike.get (h : Alike (.map entries) (.map entries'))
    (hkeys : (entries'.map Prod.fst).Nodup) (key : String) :
    Alike (get entries key) (get entries' key) := by
  have hlookup := h.lookup? hkeys key
  unfold Value.get
  generalize Value.lookup? key entries = found at hlookup ⊢
  generalize Value.lookup? key entries' = found' at hlookup ⊢
  cases hlookup with
  | some h => exact h
  | none => exact .refl .null

end DeployOptions.Value
