import Mathlib.Data.List.Basic

/-!
# `fmt::format`

The manager builds every message with `fmt::format`.  This module models
`fmt::format` for the replacement fields the source uses: `{}` takes the
next argument (automatic indexing), and `{{` and `}}` stand for one brace.
A field with an index or a format spec is outside the model.  Arguments are
already formatted text.

A format string is read as text, a field, text, and so on.  Text without
braces is copied (`formatChars_text`), and a field takes the next argument
(`formatChars_field`).  Arguments beyond the fields are ignored.  A field
with no argument left throws `format_error` (`formatChars_field_nil`).
-/

namespace EverestFramework.System.Format

/-- What the scanner of the format string holds from the character before. -/
inductive Pending where
  | none
  | openBrace
  | closeBrace

/--
`fmt::format` over the characters of a format string, scanning one
character at a time.  The error is the text of the `format_error` it throws.
-/
def formatChars : Pending → List Char → List String → Except String String
  | .none, [], _ => .ok ""
  | .openBrace, [], _ => .error "invalid format string"
  | .closeBrace, [], _ => .error "unmatched '\x7d' in format string"
  | .none, char :: rest, arguments =>
    if char = '\x7b' then formatChars .openBrace rest arguments
    else if char = '\x7d' then formatChars .closeBrace rest arguments
    else (char.toString ++ ·) <$> formatChars .none rest arguments
  | .openBrace, char :: rest, arguments =>
    if char = '\x7b' then ("\x7b" ++ ·) <$> formatChars .none rest arguments
    else if char = '\x7d' then
      match arguments with
      | argument :: later => (argument ++ ·) <$> formatChars .none rest later
      | [] => .error "argument not found"
    else .error "invalid format string"
  | .closeBrace, char :: rest, arguments =>
    if char = '\x7d' then ("\x7d" ++ ·) <$> formatChars .none rest arguments
    else .error "unmatched '\x7d' in format string"

/-- `fmt::format(formatString, arguments...)`. -/
def format (formatString : String) (arguments : List String) : Except String String :=
  formatChars .none formatString.toList arguments

/-- Text without braces. -/
def PlainText (text : String) : Prop :=
  ∀ char ∈ text.toList, char ≠ '\x7b' ∧ char ≠ '\x7d'

instance (text : String) : Decidable (PlainText text) :=
  inferInstanceAs (Decidable (∀ char ∈ text.toList, _))

theorem map_append_map (first second : String) (result : Except String String) :
    (first ++ ·) <$> ((second ++ ·) <$> result) = ((first ++ second) ++ ·) <$> result := by
  cases result <;> simp [Functor.map, Except.map, String.append_assoc]

/-- Text without braces is copied. -/
theorem formatChars_text (text : String) (plain : PlainText text) (rest : List Char)
    (arguments : List String) :
    formatChars .none (text.toList ++ rest) arguments =
      (text ++ ·) <$> formatChars .none rest arguments := by
  obtain ⟨chars⟩ := text
  induction chars with
  | nil =>
    show formatChars .none rest arguments = _
    cases formatChars .none rest arguments <;> rfl
  | cons char later ih =>
    have first := plain char (List.mem_cons_self _ _)
    have others : PlainText ⟨later⟩ :=
      fun other member => plain other (List.mem_cons_of_mem _ member)
    show formatChars .none (char :: (later ++ rest)) arguments = _
    rw [formatChars, if_neg first.1, if_neg first.2,
      show later ++ rest = String.toList ⟨later⟩ ++ rest from rfl, ih others, map_append_map]
    rfl

/-- A field takes the next argument. -/
theorem formatChars_field (rest : List Char) (argument : String) (later : List String) :
    formatChars .none ('\x7b' :: '\x7d' :: rest) (argument :: later) =
      (argument ++ ·) <$> formatChars .none rest later :=
  rfl

/-- A field with no argument left throws. -/
theorem formatChars_field_nil (rest : List Char) :
    formatChars .none ('\x7b' :: '\x7d' :: rest) [] = .error "argument not found" :=
  rfl

/-- The end of the format string ends the text, whatever arguments are left. -/
theorem formatChars_nil (arguments : List String) : formatChars .none [] arguments = .ok "" :=
  rfl

end EverestFramework.System.Format
