import Mathlib.Tactic.Common
import SqlWire.Text.Parser

/-!
# What parsers take

`Parser.Takes p text a rest` says that of a text with `rest` behind it the parser `p` takes just the
text, as the value `a`. One parser after the other takes one text after the other (`Takes.bind`).
A choice takes what its first parser does, or what its second one does where the first one fails, so
each parser has a lemma on what it takes and one on where it fails.

What may stand behind a text is up to the parser : a repetition takes all it can get, so it must
fail on what follows (`takes_many`).
-/

namespace SqlWire.Text.Parser

variable {α β : Type} {p q : Parser α} {f : α → Parser β} {good : Char → Bool}
  {text text' rest : List Char} {a : α} {b : β} {c : Char}

/-- Of a text with `rest` behind it, just the text is taken. -/
def Takes (p : Parser α) (text : List Char) (a : α) (rest : List Char) : Prop :=
  p (text ++ rest) = some (a, rest)

/-- Nothing in front of a text is of a class. -/
def Stops (good : Char → Bool) (rest : List Char) : Prop :=
  ∀ c ∈ rest.head?, good c = false

@[simp] theorem stops_nil : Stops good [] := nofun

@[simp] theorem stops_cons : Stops good (c :: rest) ↔ good c = false := by
  simp [Stops]

theorem Stops.mono {wide : Char → Bool} (h : Stops wide rest)
    (le : ∀ c, good c = true → wide c = true) : Stops good rest := fun c hc =>
  Bool.eq_false_iff.2 fun inside => Bool.eq_false_iff.1 (h c hc) (le c inside)

/-! ## One after the other -/

theorem takes_pure (a : α) (rest : List Char) : Takes (pure a) [] a rest := rfl

/-- What two parsers take stands one behind the other. -/
theorem Takes.bind (first : Takes p text a (text' ++ rest)) (second : Takes (f a) text' b rest) :
    Takes (p >>= f) (text ++ text') b rest := by
  rw [Takes] at first second ⊢
  rw [List.append_assoc]
  simp only [Bind.bind, Parser.bind, first, second]

/-- What is taken, made into something else. -/
theorem Takes.map {g : α → β} (h : Takes p text a rest) :
    Takes (do return g (← p)) text (g a) rest := by
  have taken : Takes (do return g (← p)) (text ++ []) (g a) rest := h.bind (takes_pure (g a) rest)
  rwa [List.append_nil] at taken

/-- What is taken, made into something else that there is. -/
theorem Takes.ofOption {g : α → Option β} (h : Takes p text a rest) (some : g a = some b) :
    Takes (do ofOption (g (← p))) text b rest := by
  have made : Takes (Parser.ofOption (g a)) [] b rest := by
    rw [some]
    exact takes_pure b rest
  have taken : Takes (do Parser.ofOption (g (← p))) (text ++ []) b rest := h.bind made
  rwa [List.append_nil] at taken

theorem bind_eq_none (h : p text = none) : (p >>= f) text = none := by
  simp only [Bind.bind, Parser.bind, h]

/-! ## Single characters and classes -/

theorem takes_satisfy (h : good c = true) (rest : List Char) : Takes (satisfy good) [c] c rest := by
  simp only [Takes, List.singleton_append, satisfy, if_pos h]

theorem satisfy_eq_none (h : Stops good text) : satisfy good text = none := by
  cases text with
  | nil => rfl
  | cons c text =>
    rw [stops_cons] at h
    simp only [satisfy, h, Bool.false_eq_true, if_false]

theorem takes_char (c : Char) (rest : List Char) : Takes (char c) [c] c rest :=
  takes_satisfy (beq_self_eq_true c) rest

theorem takes_literal (word : String) (rest : List Char) :
    Takes (literal word) word.toList () rest := by
  have front : word.toList.isPrefixOf (word.toList ++ rest) = true :=
    List.isPrefixOf_iff_prefix.2 (List.prefix_append _ _)
  have behind : (word.toList ++ rest).drop word.length = rest := by
    rw [← String.length_toList]
    exact List.drop_left
  simp only [Takes, literal, if_pos front, behind]

/-- A word does not begin with another character than its first one. -/
theorem literal_eq_none {word : String} (h : word.toList.head? ≠ some c) (some : word ≠ "") :
    literal word (c :: text) = none := by
  rw [literal, if_neg]
  intro front
  obtain ⟨behind, same⟩ := List.isPrefixOf_iff_prefix.1 front
  cases hword : word.toList with
  | nil => exact some (String.toList_eq_nil_iff.1 hword)
  | cons d ds =>
    rw [hword, List.cons_append, List.cons.injEq] at same
    exact h (by rw [hword, List.head?_cons, same.1])

/-- A run of good characters is taken as far as it goes. -/
theorem takes_takeWhile (all : ∀ c ∈ text, good c = true) (stop : Stops good rest) :
    Takes (takeWhile good) text text rest := by
  have none : rest.takeWhile good = [] ∧ rest.dropWhile good = rest := by
    cases rest with
    | nil => exact ⟨rfl, rfl⟩
    | cons c rest =>
      rw [stops_cons] at stop
      simp [stop]
  simp only [Takes, takeWhile, List.takeWhile_append_of_pos all, List.dropWhile_append_of_pos all,
    none, List.append_nil]

theorem takes_exactly {n : Nat} (len : text.length = n) (all : ∀ c ∈ text, good c = true)
    (rest : List Char) : Takes (exactly n good) text text rest := by
  have every : text.all good = true := List.all_eq_true.2 all
  subst len
  simp [Takes, exactly, every]

/-! ## Choices -/

theorem takes_orElse (h : Takes p text a rest) : Takes (orElse p q) text a rest := by
  rw [Takes] at h ⊢
  simp only [Parser.orElse, h]

theorem takes_orElse_of_eq_none (none : p (text ++ rest) = none) (h : Takes q text a rest) :
    Takes (orElse p q) text a rest := by
  rw [Takes] at h ⊢
  simp only [Parser.orElse, none, h]

/-! ## Repetitions -/

section Repetitions

variable {ι : Type} {shown : ι → List Char} {meant : ι → α} {first : ι} {items : List ι}

/-- Texts that are each taken with any text behind that may follow it are taken one behind the
other, up to where nothing more can be taken. -/
theorem takes_many (follows : List Char → Prop)
    (each : ∀ item ∈ items, ∀ rest, follows rest → Takes p (shown item) (meant item) rest)
    (some : ∀ item ∈ items, shown item ≠ [])
    (next : ∀ item ∈ items, ∀ rest, follows (shown item ++ rest)) (last : follows rest)
    (stop : p rest = none) :
    Takes (many p) (items.flatMap shown) (items.map meant) rest := by
  induction items with
  | nil =>
    rw [Takes, List.flatMap_nil, List.nil_append, many, stop, List.map_nil]
  | cons item items ih =>
    rw [List.forall_mem_cons] at each some next
    have behind := ih each.2 some.2 next.2
    have between : follows (items.flatMap shown ++ rest) := by
      cases items with
      | nil => exact last
      | cons second items =>
        rw [List.flatMap_cons, List.append_assoc]
        exact next.2 second List.mem_cons_self _
    have shorter : (items.flatMap shown ++ rest).length <
        (shown item ++ (items.flatMap shown ++ rest)).length := by
      have taken := List.length_pos_iff.2 some.1
      simp only [List.length_append]
      omega
    have head := each.1 _ between
    rw [Takes] at head behind ⊢
    rw [List.flatMap_cons, List.append_assoc, many, head]
    simp only [if_pos shorter, behind, List.map_cons]

/-- The first text is taken as it is, and each further one with the separator in front. -/
theorem takes_separated {separator : Parser β} {mark : List Char} (follows : List Char → Prop)
    (each : ∀ item ∈ first :: items, ∀ rest, follows rest →
      Takes p (shown item) (meant item) rest)
    (between : ∀ rest, Takes separator mark b rest) (some : mark ≠ [])
    (next : ∀ rest, follows (mark ++ rest)) (last : follows rest) (stop : separator rest = none) :
    Takes (separated p separator) (shown first ++ items.flatMap fun item => mark ++ shown item)
      ((first :: items).map meant) rest := by
  rw [List.forall_mem_cons] at each
  have others : Takes (many (do let _ ← separator; p))
      (items.flatMap fun item => mark ++ shown item) (items.map meant) rest := by
    refine takes_many follows (fun item hitem rest hrest =>
      (between _).bind (each.2 item hitem rest hrest)) (fun item _ =>
      List.append_ne_nil_of_left_ne_nil some _) (fun item _ rest => ?_) last (bind_eq_none stop)
    rw [List.append_assoc]
    exact next _
  refine (each.1 _ ?_).bind (others.map (g := (meant first :: ·)))
  cases items with
  | nil => exact last
  | cons second items =>
    rw [List.flatMap_cons, List.append_assoc, List.append_assoc]
    exact next _

end Repetitions

end SqlWire.Text.Parser
