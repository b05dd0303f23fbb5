/-!
# Glob patterns

In a pattern `*` stands for any text, `?` for any one character, and a bracket for one character out
of a set; `[!…]` negates the set. A bracket that is never closed stands for itself. `Glob.parse`
reads a pattern into pieces, and `Glob.accepts` says whether pieces cover a text from end to end:
one equation for each piece says what that means (`accepts_many_cons`, `accepts_cons_cons`, …).
All ends of the text are looked at together, so that many stars cost no more than other pieces.
-/

namespace ArenaStandings

namespace Glob

/-- A piece of a pattern. -/
inductive Piece
  /-- Any text. -/
  | many
  /-- Any one character. -/
  | any
  /-- This character. -/
  | one (character : Char)
  /-- One character inside the ranges, or outside all of them. -/
  | among (negated : Bool) (ranges : List (Char × Char))
  deriving DecidableEq, Repr

/-- Is the character in one of the ranges, ends included? -/
def inRanges (ranges : List (Char × Char)) (character : Char) : Bool :=
  ranges.any fun range => range.1 ≤ character && character ≤ range.2

def Piece.fits : Piece → Char → Bool
  | many, _ => false
  | any, _ => true
  | one wanted, character => wanted == character
  | among negated ranges, character => inRanges ranges character != negated

/-- For each place in a row of truth values: is one of them true from there on? -/
def anyFrom : List Bool → List Bool
  | [] => []
  | first :: rest =>
    match anyFrom rest with
    | [] => [first]
    | next :: others => (first || next) :: next :: others

/-- For every end of a text, from the whole to the empty one: do the pieces cover it? -/
def covered : List Piece → List Char → List Bool
  | [], text => text.map (fun _ => false) ++ [true]
  | .many :: rest, text => anyFrom (covered rest text)
  | piece :: rest, text =>
    List.zipWith (fun character tail => piece.fits character && tail) text
      ((covered rest text).drop 1) ++ [false]

/-- Do the pieces cover the text? -/
def accepts (pieces : List Piece) (text : List Char) : Bool := (covered pieces text).headD false

theorem length_anyFrom (marks : List Bool) : (anyFrom marks).length = marks.length := by
  fun_induction anyFrom marks with
  | case1 => rfl
  | case2 first rest found ih => rw [List.length_singleton, List.length_cons, ← ih, found]; rfl
  | case3 first rest next others found ih => simpa [found] using ih

theorem drop_anyFrom (marks : List Bool) : (anyFrom marks).drop 1 = anyFrom (marks.drop 1) := by
  cases marks with
  | nil => rfl
  | cons first rest =>
    rw [anyFrom]
    split <;> simp_all

theorem headD_anyFrom (first : Bool) (rest : List Bool) :
    (anyFrom (first :: rest)).headD false = (first || (anyFrom rest).headD false) := by
  rw [anyFrom]
  split <;> simp_all

theorem length_covered (pieces : List Piece) (text : List Char) :
    (covered pieces text).length = text.length + 1 := by
  fun_induction covered pieces text with
  | case1 text => simp
  | case2 rest text ih => rw [length_anyFrom, ih]
  | case3 piece rest text other ih => simp [ih]

/-- The ends of a text behind its first character are the ends of what follows it. -/
theorem drop_covered (pieces : List Piece) (character : Char) (text : List Char) :
    (covered pieces (character :: text)).drop 1 = covered pieces text := by
  induction pieces generalizing character text with
  | nil => simp [covered]
  | cons piece rest ih =>
    by_cases star : piece = .many
    · subst star
      simp only [covered, drop_anyFrom, ih]
    · simp only [covered, ih]
      have shape := length_covered rest text
      match ends : covered rest text with
      | [] => simp [ends] at shape
      | first :: others => simp

theorem accepts_nil (text : List Char) : accepts [] text = text.isEmpty := by
  cases text <;> simp [accepts, covered]

/-- A star covers nothing, or a character and then what it covers. -/
theorem accepts_many_cons (rest : List Piece) (character : Char) (text : List Char) :
    accepts (.many :: rest) (character :: text) =
      (accepts rest (character :: text) || accepts (.many :: rest) text) := by
  have tail := drop_covered rest character text
  have shape := length_covered rest (character :: text)
  match ends : covered rest (character :: text) with
  | [] => simp [ends] at shape
  | first :: others =>
    rw [ends, List.drop_one, List.tail_cons] at tail
    simp only [accepts, covered, ends, headD_anyFrom, tail, List.headD_cons]

theorem accepts_many_nil (rest : List Piece) : accepts (.many :: rest) [] = accepts rest [] := by
  have shape := length_covered rest []
  match ends : covered rest [] with
  | [] => simp [ends] at shape
  | [only] => simp [accepts, covered, ends, anyFrom]
  | first :: second :: others => simp [ends] at shape

theorem accepts_cons_cons {piece : Piece} (single : piece ≠ .many) (rest : List Piece)
    (character : Char) (text : List Char) :
    accepts (piece :: rest) (character :: text) = (piece.fits character && accepts rest text) := by
  have shape := length_covered rest text
  simp only [accepts, covered, drop_covered]
  match ends : covered rest text with
  | [] => simp [ends] at shape
  | first :: others => simp

/-- Any other piece does not cover the empty text. -/
theorem accepts_cons_nil {piece : Piece} (single : piece ≠ .many) (rest : List Piece) :
    accepts (piece :: rest) [] = false := by
  simp [accepts, covered]

/-! ## The inside of a bracket

Hyphens cut the inside of a bracket into segments, and each cut joins the character before it with
the one after it to a range. A hyphen less than two characters after a cut, or at either end, stands
for itself. -/

/-- Cut at the first hyphen that has at least `skip` characters before it. -/
def cutAt (skip : Nat) (inside : List Char) : Option (List Char × List Char) :=
  let head := inside.take skip
  let tail := inside.drop skip
  match tail.dropWhile (· ≠ '-') with
  | [] => none
  | _ :: rest => some (head ++ tail.takeWhile (· ≠ '-'), rest)

/-- The segments of the inside of a bracket; a hyphen at the end belongs to the last segment. The
first argument bounds the number of cuts. -/
def segments : Nat → Nat → List Char → List (List Char)
  | 0, _, inside => [inside]
  | cuts + 1, skip, inside =>
    match cutAt skip inside with
    | none => [inside]
    | some (segment, []) => [segment ++ ['-']]
    | some (segment, rest) => segment :: segments cuts 2 rest

/-- Join neighbouring segments whose range would be empty, dropping its two ends. -/
def joinEmpty : List (List Char) → List (List Char)
  | [] => []
  | segment :: rest =>
    match joinEmpty rest with
    | [] => [segment]
    | next :: others =>
      match segment.getLast?, next.head? with
      | some low, some high =>
        if high < low then (segment.dropLast ++ next.drop 1) :: others
        else segment :: next :: others
      | _, _ => segment :: next :: others

/-- The ranges that segments stand for. A cut after an empty segment is a hyphen. -/
def rangesOf : List (List Char) → List (Char × Char)
  | [] => []
  | segment :: rest =>
    segment.map (fun character => (character, character)) ++
      (match segment.getLast?, rest with
        | some low, (high :: _) :: _ => [(low, high)]
        | none, _ :: _ => [('-', '-')]
        | _, _ => []) ++
      rangesOf rest

/-- The set that the inside of a bracket stands for. -/
def bracket (inside : List Char) : Piece :=
  let skip := if inside.head? = some '!' then 2 else 1
  match joinEmpty (segments inside.length skip inside) with
  | ('!' :: first) :: rest => .among true (rangesOf (first :: rest))
  | found => .among false (rangesOf found)

/-- The inside of a bracket and what follows it, if the bracket is closed. A closing bracket in
first place, or after a leading `!`, belongs to the inside. -/
def closeBracket? (text : List Char) : Option (List Char × List Char) :=
  let negation := if text.head? = some '!' then 1 else 0
  let fixed := if (text.drop negation).head? = some ']' then negation + 1 else negation
  let tail := text.drop fixed
  match tail.dropWhile (· ≠ ']') with
  | [] => none
  | _ :: rest => some (text.take fixed ++ tail.takeWhile (· ≠ ']'), rest)

theorem length_closeBracket? {text inside rest : List Char}
    (closed : closeBracket? text = some (inside, rest)) : rest.length < text.length := by
  simp only [closeBracket?] at closed
  split at closed
  · cases closed
  · rename_i head tail found
    cases closed
    have shorter := congrArg List.length found
    have bound := (List.dropWhile_sublist (p := (· ≠ ']'))
      (l := text.drop (if (text.drop (if text.head? = some '!' then 1 else 0)).head? = some ']'
        then (if text.head? = some '!' then 1 else 0) + 1
        else (if text.head? = some '!' then 1 else 0)))).length_le
    simp only [List.length_cons, List.length_drop] at shorter bound
    omega

def parse : List Char → List Piece
  | [] => []
  | '*' :: rest => .many :: parse rest
  | '?' :: rest => .any :: parse rest
  | '[' :: rest =>
    match _closed : closeBracket? rest with
    | none => .one '[' :: parse rest
    | some (inside, after) => bracket inside :: parse after
  | character :: rest => .one character :: parse rest
termination_by text => text.length
decreasing_by
  · simp_wf
  · simp_wf
  · simp_wf
  · have shorter := length_closeBracket? _closed
    simp_wf
    omega
  · simp_wf

/-- Does a text fit a pattern from end to end? -/
def fits (pattern text : String) : Bool := accepts (parse pattern.toList) text.toList

end Glob

end ArenaStandings
