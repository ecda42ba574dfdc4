/-!
# Parsers of characters

A parser takes a value from the front of a character list and leaves the rest, or fails. The parsers
here never look back at what another one has taken: a failure is final for whoever does not offer an
alternative (`Parser.orElse`). A repetition (`Parser.many`) ends at the first failure, or when
nothing more is taken.
-/

namespace SqlWire.Text

/-- Takes a value from the front of a text and leaves the rest, or fails. -/
def Parser (α : Type) : Type := List Char → Option (α × List Char)

namespace Parser

variable {α β : Type}

/-- Take nothing. -/
protected def pure (a : α) : Parser α := fun cs => some (a, cs)

/-- Take one value, then what depends on it. -/
protected def bind (p : Parser α) (f : α → Parser β) : Parser β := fun cs =>
  match p cs with
  | some (a, rest) => f a rest
  | none => none

instance : Monad Parser where
  pure := Parser.pure
  bind := Parser.bind

/-- Fail. -/
def fail : Parser α := fun _ => none

/-- Go on with a value, or fail without one. -/
def ofOption : Option α → Parser α
  | some a => Parser.pure a
  | none => fail

/-- Take what the first parser takes, or else what the second does. -/
def orElse (p q : Parser α) : Parser α := fun cs =>
  match p cs with
  | some result => some result
  | none => q cs

/-- The first of several parsers that succeeds. -/
def firstOf (ps : List (Parser α)) : Parser α :=
  ps.foldr orElse fail

/-- A value if there is one. -/
def optional (p : Parser α) : Parser (Option α) :=
  orElse (do return some (← p)) (Parser.pure none)

/-- One character of a class. -/
def satisfy (p : Char → Bool) : Parser Char
  | c :: cs => if p c then some (c, cs) else none
  | [] => none

/-- This character. -/
def char (c : Char) : Parser Char := satisfy (· == c)

/-- These characters. -/
def literal (text : String) : Parser Unit := fun cs =>
  if text.toList.isPrefixOf cs then some ((), cs.drop text.length) else none

/-- The longest run of characters of a class, perhaps empty. -/
def takeWhile (p : Char → Bool) : Parser (List Char) := fun cs =>
  some (cs.takeWhile p, cs.dropWhile p)

/-- The end of the text. -/
def atEnd : Parser Unit := fun cs =>
  if cs.isEmpty then some ((), cs) else none

/-- Exactly `n` characters of a class. -/
def exactly (n : Nat) (p : Char → Bool) : Parser (List Char) := fun cs =>
  let run := cs.take n
  if run.length = n && run.all p then some (run, cs.drop n) else none

/-- Values as long as there are any. -/
def many (p : Parser α) : Parser (List α) := fun cs =>
  match p cs with
  | none => some ([], cs)
  | some (a, rest) =>
    if rest.length < cs.length then
      match many p rest with
      | some (as, rest) => some (a :: as, rest)
      | none => none
    else some ([a], rest)
termination_by cs => cs.length

/-- One value or more, with a separator between two. -/
def separated (p : Parser α) (separator : Parser β) : Parser (List α) := do
  let first ← p
  let others ← many (do let _ ← separator; p)
  return first :: others

end Parser

end SqlWire.Text
