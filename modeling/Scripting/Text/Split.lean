/-!
# Cutting text into pieces

Three cuts, each on a list of characters: at every occurrence of one character (`splitOn`), at the
first occurrence of a word (`splitFirst?`), and after every line feed (`chunks`).  None of them
loses a character that is not a separator: `chunks` even keeps the separators, so its pieces
concatenate to the text (`chunks_flatten`).
-/

namespace Scripting.Text

/-- the pieces between occurrences of `sep`; one more piece than there are occurrences -/
def splitOn (sep : Char) : List Char → List (List Char)
  | [] => [[]]
  | c :: cs =>
    match splitOn sep cs with
    | [] => [[]]
    | piece :: pieces => if c = sep then [] :: piece :: pieces else (c :: piece) :: pieces

/-- the pieces that are not empty -/
def segmentsOn (sep : Char) (cs : List Char) : List (List Char) :=
  (splitOn sep cs).filter fun piece => !piece.isEmpty

/-- what follows `word` at the very front of a text -/
def dropWord? : List Char → List Char → Option (List Char)
  | [], cs => some cs
  | _ :: _, [] => none
  | w :: ws, c :: cs => if w = c then dropWord? ws cs else none

/-- the texts before and after the first occurrence of `word` -/
def splitFirst? (word : List Char) : List Char → Option (List Char × List Char)
  | [] => if word.isEmpty then some ([], []) else none
  | c :: cs =>
    match dropWord? word (c :: cs) with
    | some rest => some ([], rest)
    | none => (splitFirst? word cs).map fun p => (c :: p.1, p.2)

/-- the pieces of a text cut after every line feed; no piece is empty -/
def chunks : List Char → List (List Char)
  | [] => []
  | c :: cs =>
    if c = '\n' then [c] :: chunks cs
    else match chunks cs with
      | [] => [[c]]
      | chunk :: rest => (c :: chunk) :: rest

/-- a piece of `chunks` without its line feed and one carriage return before it -/
def stripLineEnd (chunk : List Char) : List Char :=
  match chunk.reverse with
  | '\n' :: '\r' :: cs => cs.reverse
  | '\n' :: cs => cs.reverse
  | _ => chunk

/-- the lines of a text; a line feed at the very end starts no further line -/
def lines (cs : List Char) : List (List Char) := (chunks cs).map stripLineEnd

@[simp] theorem splitOn_nil (sep : Char) : splitOn sep [] = [[]] := rfl

theorem splitOn_ne_nil (sep : Char) (cs : List Char) : splitOn sep cs ≠ [] := by
  cases cs with
  | nil => simp
  | cons c cs => rw [splitOn]; split <;> (try split) <;> simp

theorem splitOn_cons_self (sep : Char) (cs : List Char) :
    splitOn sep (sep :: cs) = [] :: splitOn sep cs := by
  rw [splitOn]
  split
  · rename_i h; exact absurd h (splitOn_ne_nil sep cs)
  · rename_i h; simp [h]

theorem chunks_lf (cs : List Char) : chunks ('\n' :: cs) = ['\n'] :: chunks cs := rfl

/-- cutting into chunks loses nothing -/
theorem chunks_flatten (cs : List Char) : (chunks cs).flatten = cs := by
  induction cs with
  | nil => rfl
  | cons c cs ih =>
    rw [chunks]
    split
    · simp [ih]
    · split
      · rename_i h; rw [h] at ih; simp at ih; simp [← ih]
      · rename_i h; rw [h] at ih; simp at ih; simp [← ih]

end Scripting.Text
