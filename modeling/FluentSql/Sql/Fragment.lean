/-!
# Fragments of statements

A fragment is a row of pieces: texts, and the places where values are to be bound. Its
text shows each such place as `?`. Text and number of places of a fragment are those
of its parts put together.
-/

namespace FluentSql

/-- A piece of a statement. -/
inductive Piece where
  | text (chars : List Char)
  | placeholder
deriving DecidableEq, Repr

/-- The characters of a piece. -/
def Piece.chars : Piece → List Char
  | .text chars => chars
  | .placeholder => ['?']

/-- Some pieces of a statement in order. -/
abbrev Fragment := List Piece

namespace Fragment

/-- A text of the statement's own. -/
def fixed (text : String) : Fragment := [.text text.toList]

/-- The place of one value. -/
def placeholder : Fragment := [.placeholder]

/-- The text of a fragment. -/
def text (fragment : Fragment) : List Char := fragment.flatMap Piece.chars

/-- The number of values that a fragment asks for. -/
def placeholders (fragment : Fragment) : Nat := fragment.count .placeholder

/-- Fragments with a separator between them. -/
def separated (separator : String) (fragments : List Fragment) : Fragment :=
  List.intercalate (fixed separator) fragments

/-- The places of some values with commas between them. -/
def placeholderList (count : Nat) : Fragment := separated ", " (List.replicate count placeholder)

/-- A fragment in parentheses. -/
def parenthesized (fragment : Fragment) : Fragment := fixed "(" ++ fragment ++ fixed ")"

@[simp] theorem text_nil : text [] = [] := rfl

@[simp] theorem text_cons (piece : Piece) (rest : Fragment) :
    text (piece :: rest) = piece.chars ++ text rest := by simp [text]

@[simp] theorem text_append (first second : Fragment) :
    text (first ++ second) = text first ++ text second := by simp [text]

@[simp] theorem text_fixed (content : String) : text (fixed content) = content.toList := by
  simp [fixed, Piece.chars]

@[simp] theorem text_placeholder : text placeholder = ['?'] := rfl

theorem text_text (chars : List Char) : text [.text chars] = chars := by simp [Piece.chars]

/-- The texts of fragments stand between the separators. -/
theorem text_separated (separator : String) : ∀ fragments : List Fragment,
    text (separated separator fragments) =
      List.intercalate separator.toList (fragments.map text)
  | [] => rfl
  | [only] => by simp [separated, List.intercalate]
  | first :: second :: rest => by
    have later := text_separated separator (second :: rest)
    rw [separated] at later ⊢
    rw [List.intercalate_cons_cons, text_append, text_append, later, text_fixed, List.map_cons,
      List.map_cons, List.map_cons, List.intercalate_cons_cons]

@[simp] theorem placeholders_nil : placeholders [] = 0 := rfl

@[simp] theorem placeholders_append (first second : Fragment) :
    placeholders (first ++ second) = placeholders first + placeholders second := by
  simp [placeholders]

@[simp] theorem placeholders_fixed (content : String) : placeholders (fixed content) = 0 := rfl

@[simp] theorem placeholders_placeholder : placeholders placeholder = 1 := rfl

end Fragment

end FluentSql
