import Mathlib.Data.List.Nodup
import Mathlib.Tactic.Common
import SqlWire.Session.ShapeCache

/-!
# What is remembered of descriptions

A cache holds `capacity` texts at most, and none of them twice (`Sound.remember`). To remember a
description makes it what is found under its text and may forget what is found under others, but
puts nothing under them (`find?_remember_self`, `find?_remember_of_ne`). What is found of a text
after a row of descriptions is therefore the latest one of this very text (`find?_remembering`).
-/

namespace SqlWire

/-- A description : the text of a query with its columns. -/
abbrev Description := String × List Descriptor

/-- These are the columns in the last of the descriptions of a query. -/
def Latest (described : List Description) (query : String) (columns : List Descriptor) : Prop :=
  ∃ before later, described = before ++ (query, columns) :: later ∧
    ∀ description ∈ later, description.1 ≠ query

namespace ShapeCache

/-- Take note of one description after the other. -/
def remembering (cache : ShapeCache) (described : List Description) : ShapeCache :=
  described.foldl (fun cache description => cache.remember description.1 description.2) cache

variable {cache : ShapeCache} {query other : String} {columns : List Descriptor}
  {described more : List Description}

@[simp] theorem remembering_nil : cache.remembering [] = cache :=
  rfl

/-- Descriptions are remembered one behind the other. -/
theorem remembering_append :
    cache.remembering (described ++ more) = (cache.remembering described).remembering more :=
  List.foldl_append

/-! ## What is found -/

/-- What is inserted is found. -/
theorem find?_insert_self : (cache.insert query columns).find? query = some columns := by
  simp [insert, find?]

/-- Leaving one entry out leaves the others. -/
theorem lookup_filter_of_ne (h : other ≠ query) (entries : List Description) :
    (entries.filter fun entry => entry.1 != query).lookup other = entries.lookup other := by
  induction entries with
  | nil => rfl
  | cons entry entries ih =>
    by_cases here : entry.1 = query
    · rw [List.filter_cons_of_neg (by simp [here]), ih, List.lookup_cons,
        beq_eq_false_iff_ne.2 (here ▸ h)]
    · rw [List.filter_cons_of_pos (by simp [here]), List.lookup_cons, List.lookup_cons, ih]

/-- Inserting leaves what is remembered of other texts. -/
theorem find?_insert_of_ne (h : other ≠ query) :
    (cache.insert query columns).find? other = cache.find? other := by
  rw [insert, find?, find?, List.lookup_cons, beq_eq_false_iff_ne.2 h]
  exact lookup_filter_of_ne h _

/-- What is remembered is found. -/
theorem find?_remember_self : (cache.remember query columns).find? query = some columns := by
  unfold remember
  split_ifs with known
  · exact known
  · exact find?_insert_self
  · exact find?_insert_self

/-- What is found under other texts is what was found before, or nothing once a full cache was
emptied. -/
theorem find?_remember_of_ne (h : other ≠ query) :
    (cache.remember query columns).find? other =
      if cache.find? query ≠ some columns ∧ capacity ≤ cache.entries.length then none
      else cache.find? other := by
  unfold remember
  by_cases known : cache.find? query = some columns
  · simp [known]
  · by_cases full : capacity ≤ cache.entries.length
    · simp only [known, full, if_false, if_true, ne_eq, not_false_eq_true, and_self]
      exact find?_insert_of_ne h
    · simp only [known, full, if_false, and_false]
      exact find?_insert_of_ne h

/-- What is found of a text is the latest description of it, or was found before if there is none.
-/
theorem find?_remembering (h : (cache.remembering described).find? query = some columns) :
    Latest described query columns ∨
      (∀ description ∈ described, description.1 ≠ query) ∧ cache.find? query = some columns := by
  -- From the first description on : what it leaves is the cache that the others find.
  induction described generalizing cache with
  | nil => exact Or.inr ⟨nofun, h⟩
  | cons description described ih =>
    obtain ⟨before, later, rfl, last⟩ | ⟨none, found⟩ := ih h
    · exact Or.inl ⟨description :: before, later, rfl, last⟩
    · obtain ⟨text, noted⟩ := description
      by_cases same : query = text
      · subst same
        cases find?_remember_self.symm.trans found
        exact Or.inl ⟨[], described, rfl, none⟩
      · have kept := (find?_remember_of_ne same).symm.trans found
        split_ifs at kept
        exact Or.inr ⟨List.forall_mem_cons.2 ⟨Ne.symm same, none⟩, kept⟩

/-! ## How much is remembered -/

/-- What holds of a cache at any time. -/
structure Sound (cache : ShapeCache) : Prop where
  bounded : cache.entries.length ≤ capacity
  /-- No text is remembered twice. -/
  distinct : (cache.entries.map Prod.fst).Nodup

theorem sound_empty : Sound {} :=
  ⟨Nat.zero_le _, List.nodup_nil⟩

/-- A cache with room takes one more entry. -/
theorem Sound.insert (h : cache.Sound) (room : cache.entries.length < capacity) (query : String)
    (columns : List Descriptor) : (cache.insert query columns).Sound where
  bounded := Nat.lt_of_le_of_lt (List.length_filter_le _ _) room
  distinct := by
    refine List.nodup_cons.2 ⟨fun mem => ?_, ?_⟩
    · obtain ⟨entry, kept, same⟩ := List.mem_map.1 mem
      simpa [same] using (List.mem_filter.1 kept).2
    · exact h.distinct.sublist (List.filter_sublist.map Prod.fst)

/-- A full cache is begun anew, so one more entry always fits. -/
theorem Sound.remember (h : cache.Sound) (query : String) (columns : List Descriptor) :
    (cache.remember query columns).Sound := by
  unfold ShapeCache.remember
  split_ifs with known full
  · exact h
  · exact sound_empty.insert (by decide) query columns
  · exact h.insert (Nat.lt_of_not_le full) query columns

/-- A cache stays sound whatever is remembered. -/
theorem Sound.remembering (h : cache.Sound) (described : List Description) :
    (cache.remembering described).Sound := by
  induction described generalizing cache with
  | nil => exact h
  | cons description described ih => exact ih (h.remember _ _)

end ShapeCache

end SqlWire
