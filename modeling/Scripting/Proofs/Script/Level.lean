import Scripting.Script.Lexer

/-!
# Cutting a script on another line

A token does not depend on the line that it stands on, only on its column, since the blanks that a
text leaves out are counted from the column of its quote.

* `Level`          two places in one text that differ in their lines at most;
* `SameScan`       a text that is read at both: the same fault, or the same result;
* `SameCut`        a token that is cut at both: the same token, and level places behind it;
* `level_tokens`   the tokens behind level places are the same.
-/

namespace Scripting.Script

open Text

/-! ## places on different lines -/

inductive Level : Cursor → Cursor → Prop
  | mk (rest : List Char) {p q : Pos} (h : p.col = q.col) : Level ⟨rest, p⟩ ⟨rest, q⟩

/-- the same result, and level places behind it -/
def SameThen {α : Type} (r s : α × Cursor) : Prop := r.1 = s.1 ∧ Level r.2 s.2

theorem SameThen.on {α β : Type} {r s : α × Cursor} (h : SameThen r s) (f : α → β) :
    SameThen (f r.1, r.2) (f s.1, s.2) := ⟨congrArg f h.1, h.2⟩

namespace Cursor

theorem col_after (c : Char) {p q : Pos} (h : p.col = q.col) : (after c p).col = (after c q).col := by
  unfold after
  split
  · rfl
  · exact congrArg (· + 1) h

theorem level_advance {k k' : Cursor} (h : Level k k') : Level k.advance k'.advance := by
  cases h with
  | mk rest h =>
    cases rest with
    | nil => exact .mk _ h
    | cons c cs => exact .mk _ (col_after c h)

theorem level_skip (n : Nat) {k k' : Cursor} (h : Level k k') : Level (skip n k) (skip n k') := by
  induction n generalizing k k' with
  | zero => exact h
  | succ n ih => exact ih (level_advance h)

theorem takeWhile_cons (p : Char → Bool) (c : Char) (cs : List Char) (pos : Pos) :
    takeWhile p (c :: cs) pos =
      if p c then (c :: (takeWhile p cs (after c pos)).1, (takeWhile p cs (after c pos)).2)
      else ([], ⟨c :: cs, pos⟩) := rfl

theorem level_takeWhile (f : Char → Bool) (cs : List Char) {p q : Pos} (h : p.col = q.col) :
    SameThen (takeWhile f cs p) (takeWhile f cs q) := by
  induction cs generalizing p q with
  | nil => exact ⟨rfl, .mk _ h⟩
  | cons c cs ih =>
    obtain ⟨hcs, hk⟩ := ih (col_after c h)
    rw [takeWhile_cons, takeWhile_cons]
    split
    · exact ⟨congrArg (c :: ·) hcs, hk⟩
    · exact ⟨rfl, .mk _ h⟩

end Cursor

namespace Lexer

open Cursor

theorem level_skipComment (depth : Nat) (cs : List Char) {p q : Pos} (h : p.col = q.col) :
    Level (skipComment depth cs p) (skipComment depth cs q) := by
  fun_induction skipComment depth cs p generalizing q with
  | case1 => exact .mk _ h
  | case2 depth cs p ih =>
    rw [skipComment]
    exact ih (q := ⟨q.line, q.col + 2⟩) (congrArg (· + 2) h)
  | case3 depth cs p hd =>
    rw [skipComment, if_pos hd]
    exact .mk _ (congrArg (· + 2) h)
  | case4 depth cs p hd ih =>
    rw [skipComment, if_neg hd]
    exact ih (q := ⟨q.line, q.col + 2⟩) (congrArg (· + 2) h)
  | case5 depth c cs p hopen hclose ih =>
    rw [skipComment]
    · exact ih (col_after c h)
    · exact hopen
    · exact hclose

theorem level_skipBlanks (n : Nat) {k k' : Cursor} (h : Level k k') :
    Level (skipBlanks n k) (skipBlanks n k') := by
  induction n generalizing k k' with
  | zero => exact h
  | succ n ih =>
    cases h with
    | mk rest h =>
      unfold skipBlanks
      dsimp only
      split
      · exact .mk _ h
      · exact ih (level_takeWhile _ _ h).2
      · exact ih (level_skipComment _ _ h)
      · split
        · exact ih (level_advance (.mk _ h))
        · exact .mk _ h

/-! ## texts -/

/-- two readings of one text: the same fault, or the same result at level places -/
inductive SameScan {α : Type} (A : α → α → Prop) : Scan α → Scan α → Prop
  | error (fault : LexFault) (p q : Pos) : SameScan A (.error (fault, p)) (.error (fault, q))
  | ok {a b : α} (h : A a b) : SameScan A (.ok a) (.ok b)

def SameAfter {α β : Type} (r s : α × β × Cursor) : Prop :=
  r.1 = s.1 ∧ r.2.1 = s.2.1 ∧ Level r.2.2 s.2.2

theorem level_codeDigits (n code : Nat) (seen : String) {k k' : Cursor} (h : Level k k') :
    SameScan SameAfter (codeDigits n code seen k) (codeDigits n code seen k') := by
  induction n generalizing code seen k k' with
  | zero => exact .ok ⟨rfl, rfl, h⟩
  | succ n ih =>
    have hnext := level_advance h
    cases h with
    | mk rest h =>
      unfold codeDigits
      dsimp only
      split
      · exact .error ..
      · split
        · exact .error ..
        · exact ih _ _ hnext

theorem level_codeEscape (letter : Char) (length : Nat) {k k' : Cursor} (h : Level k k') :
    SameScan SameThen (codeEscape letter length k) (codeEscape letter length k') := by
  have hdigits := level_codeDigits length 0 ("\\".push letter) h
  unfold codeEscape
  generalize codeDigits length 0 ("\\".push letter) k = r at hdigits
  generalize codeDigits length 0 ("\\".push letter) k' = r' at hdigits
  cases hdigits with
  | error => exact .error ..
  | @ok a b h =>
    obtain ⟨code, seen, k⟩ := a
    obtain ⟨_, _, k'⟩ := b
    obtain ⟨rfl, rfl, hk⟩ := h
    show SameScan SameThen (if h : _ then _ else _) (if h : _ then _ else _)
    by_cases hvalid : code.isValidChar
    · rw [dif_pos hvalid, dif_pos hvalid]
      exact .ok ⟨rfl, hk⟩
    · rw [dif_neg hvalid, dif_neg hvalid]
      exact .error ..

theorem level_escape (style : TextStyle) (c : Char) {k k' : Cursor} (h : Level k k') :
    SameScan SameThen (escape style c k) (escape style c k') := by
  have hnext := level_advance h
  unfold escape
  split
  · exact .ok ⟨rfl, hnext⟩
  · exact .ok ⟨rfl, hnext⟩
  · exact .ok ⟨rfl, hnext⟩
  · exact .ok ⟨rfl, hnext⟩
  · exact level_codeEscape _ _ hnext
  · exact level_codeEscape _ _ hnext
  · exact level_codeEscape _ _ hnext
  · split
    · exact .ok ⟨rfl, hnext⟩
    · exact .error ..

/-- a text that is read on behind an escape -/
def behindEscape {α : Type} (more : Read → Cursor → Scan α) (r : Read) :
    Scan (Char × Cursor) → Scan α
  | .error fault => .error fault
  | .ok (d, k) => more (r.push d) k

theorem level_behindEscape {α : Type} {A : α → α → Prop} {more more' : Read → Cursor → Scan α}
    (hmore : ∀ (r : Read) {k k' : Cursor}, Level k k' → SameScan A (more r k) (more' r k'))
    (r : Read) {s s' : Scan (Char × Cursor)} (h : SameScan SameThen s s') :
    SameScan A (behindEscape more r s) (behindEscape more' r s') := by
  cases h with
  | error => exact .error ..
  | @ok a b h =>
    obtain ⟨d, k⟩ := a
    obtain ⟨_, k'⟩ := b
    obtain ⟨rfl, hk⟩ := h
    exact hmore _ hk

theorem level_textBody (style : TextStyle) (limit : Nat) {start start' : Pos}
    (hs : start.col = start'.col) (n indent : Nat) (r : Read) {k k' : Cursor} (h : Level k k') :
    SameScan SameAfter (textBody style limit start n indent r k)
      (textBody style limit start' n indent r k') := by
  induction n generalizing indent r k k' with
  | zero => exact .error ..
  | succ n ih =>
    have hnext := level_advance h
    have hthird := level_skip 3 h
    have escaped {s s' : Scan (Char × Cursor)} (h : SameScan SameThen s s') :
        SameScan SameAfter (behindEscape (textBody style limit start n 0) r s)
          (behindEscape (textBody style limit start' n 0) r s') :=
      level_behindEscape (fun r => ih 0 r) r h
    cases h with
    | mk rest h =>
      unfold textBody
      dsimp only
      rw [hs, h]
      split
      · exact .error ..
      · split
        · exact .error ..
        · split
          · exact .ok ⟨rfl, rfl, hnext⟩
          · split
            · split
              · exact ih _ _ (level_advance hnext)
              · exact .ok ⟨rfl, rfl, hnext⟩
            · split
              · exact ih _ _ hnext
              · split
                · split
                  · split
                    · exact .ok ⟨rfl, rfl, .mk _ rfl⟩
                    · exact .error ..
                  · split
                    · exact ih _ _ (level_advance hnext)
                    · exact .error ..
                  · split
                    · exact ih _ _ hthird
                    · exact .error ..
                  · rename_i e es _ _ _ _
                    exact escaped (level_escape style e hnext)
                · split
                  · exact .error ..
                  · split
                    · exact ih _ _ hnext
                    · exact ih _ _ hnext

theorem level_text (style : TextStyle) (limit : Nat) {start start' : Pos}
    (hs : start.col = start'.col) {k k' : Cursor} (h : Level k k') :
    SameScan SameAfter (text style limit start k) (text style limit start' k') := by
  have hbody := level_textBody style limit hs (k.rest.length + 1) 0 {} h
  unfold text
  rw [show k'.rest = k.rest by cases h; rfl]
  generalize textBody style limit start (k.rest.length + 1) 0 {} k = r at hbody
  generalize textBody style limit start' (k.rest.length + 1) 0 {} k' = r' at hbody
  cases hbody with
  | error => exact .error ..
  | @ok a b h =>
    obtain ⟨read, ending, k⟩ := a
    obtain ⟨_, _, k'⟩ := b
    obtain ⟨rfl, rfl, hk⟩ := h
    exact .ok ⟨rfl, rfl, hk⟩

theorem level_dropLineBreak {k k' : Cursor} (h : Level k k') :
    Level (dropLineBreak k) (dropLineBreak k') := by
  cases h with
  | mk rest h =>
    unfold dropLineBreak
    dsimp only
    split
    · exact .mk _ rfl
    · exact .mk _ rfl
    · exact .mk _ rfl
    · exact .mk _ h

/-! ## numbers and symbols -/

theorem level_numberBody (radix n : Nat) (pointed : Bool) {k k' : Cursor} (h : Level k k') :
    SameThen (numberBody radix n pointed k) (numberBody radix n pointed k') := by
  induction n generalizing pointed k k' with
  | zero => exact ⟨rfl, h⟩
  | succ n ih =>
    have hnext := level_advance h
    have hskip (m : Nat) := level_skip m h
    cases h with
    | mk rest h =>
      unfold numberBody
      dsimp only
      split
      · exact ⟨rfl, .mk _ h⟩
      · exact ih _ hnext
      · exact (ih _ hnext).on (rest.take 1 ++ ·)
      · rename_i m written _
        exact (ih _ (hskip m)).on (written ++ ·)

theorem level_number (negative : Bool) {k k' : Cursor} (h : Level k k') :
    SameThen (number negative k) (number negative k') := by
  have hskip := level_skip 2 h
  cases h with
  | mk rest h =>
    have hdecimal := level_numberBody 10 (rest.length + 1) false (.mk rest h)
    unfold number
    dsimp only
    split
    · split
      · rename_i mark _ _ radix _
        exact (level_numberBody radix _ false hskip).on (radixToken negative mark radix)
      · exact hdecimal.on (decimalToken negative)
    · exact hdecimal.on (decimalToken negative)

theorem level_symbol {k k' : Cursor} (h : Level k k') : SameThen (symbol k) (symbol k') := by
  have hskip (m : Nat) := level_skip m h
  have hself := h
  cases h with
  | mk rest h =>
    unfold symbol sees next?
    dsimp only
    split
    · exact ⟨rfl, hself⟩
    · exact ⟨rfl, hskip _⟩
    · exact ⟨rfl, hskip _⟩
    · exact ⟨rfl, hself⟩

/-! ## tokens -/

/-- the same token, level places behind it, and there the lexer is inside of the same -/
structure SameCut (r s : Token × Cursor × Nesting) : Prop where
  token : r.1 = s.1
  behind : Level r.2.1 s.2.1
  nesting : r.2.2 = s.2.2

theorem level_backtick (limit : Nat) (nesting : Nesting) {start start' : Pos}
    (hs : start.col = start'.col) {k k' : Cursor} (h : Level k k') :
    SameCut (backtick limit start nesting k) (backtick limit start' nesting k') := by
  have htext := level_text .back limit hs h
  unfold backtick
  generalize text .back limit start k = r at htext
  generalize text .back limit start' k' = r' at htext
  cases htext with
  | error => exact ⟨rfl, h, rfl⟩
  | @ok a b hab =>
    obtain ⟨s, ending, k⟩ := a
    obtain ⟨_, _, k'⟩ := b
    obtain ⟨rfl, rfl, hk⟩ := hab
    cases ending
    · exact ⟨rfl, hk, rfl⟩
    · exact ⟨rfl, hk, rfl⟩

/-- a located token without its place -/
def unplaced (r : Located × Cursor × Nesting) : Token × Cursor × Nesting := (r.1.token, r.2)

theorem level_quoted (style : TextStyle) (limit : Nat) (make : String → Token)
    {start start' : Pos} (hs : start.col = start'.col) {k k' : Cursor} (h : Level k k') :
    SameThen ((quoted style limit start k make).1.token, (quoted style limit start k make).2)
      ((quoted style limit start' k' make).1.token, (quoted style limit start' k' make).2) := by
  have htext := level_text style limit hs h
  unfold quoted
  generalize text style limit start k = r at htext
  generalize text style limit start' k' = r' at htext
  cases htext with
  | error => exact ⟨rfl, h⟩
  | @ok a b hab =>
    obtain ⟨s, ending, k⟩ := a
    obtain ⟨_, _, k'⟩ := b
    obtain ⟨rfl, rfl, hk⟩ := hab
    exact ⟨rfl, hk⟩

/-- the nesting behind a token that may open a block -/
def opened (nesting : Nesting) : Token → Nesting
  | .mark "\x7b" | .mark "#\x7b" => openBrace nesting
  | _ => nesting

theorem level_token (limit : Nat) (nesting : Nesting) (operand : Bool) {k k' : Cursor}
    (h : Level k k') :
    SameCut (unplaced (token limit nesting operand k))
      (unplaced (token limit nesting operand k')) := by
  have hnext := level_advance h
  have hself := h
  cases h with
  | mk rest h =>
    unfold token seesNegative sees
    dsimp only
    split
    · exact ⟨rfl, hself, rfl⟩
    · have cut {r s : Token × Cursor} (hrs : SameThen r s) (inside : Token → Nesting) :
          SameCut (r.1, r.2, inside r.1) (s.1, s.2, inside s.1) :=
        ⟨hrs.1, hrs.2, congrArg inside hrs.1⟩
      split
      · exact cut (level_number true hnext) fun _ => nesting
      · split
        · exact cut (level_number false hself) fun _ => nesting
        · split
          · exact cut ((level_takeWhile isWordChar _ h).on Token.ofWord) fun _ => nesting
          · split
            · exact cut (level_quoted .double limit .text h hnext) fun _ => nesting
            · split
              · exact ⟨rfl, hself, rfl⟩
              · split
                · exact cut (level_quoted .single limit charToken h hnext) fun _ => nesting
                · split
                  · exact level_backtick limit nesting h (level_dropLineBreak hnext)
                  · exact cut (level_symbol hself) (opened nesting)

/-- a token with what follows it, given a way to read on -/
def following (limit : Nat) (more : Nesting → Bool → Cursor → List Located)
    (r : Located × Cursor × Nesting) : List Located :=
  match r.1.token with
  | .eof | .bad _ => [r.1]
  | .mark "\x7d" =>
    match r.2.2 with
    | [] => r.1 :: more [] false r.2.1
    | 0 :: outer => r.1 :: more outer false r.2.1
    | 1 :: outer =>
      let s := backtick limit r.2.1.pos outer r.2.1
      match s.1 with
      | .bad fault => [r.1, resumedFault fault r.2.1]
      | _ => r.1 :: ⟨s.1, r.2.1.pos⟩ :: more s.2.2 false s.2.1
    | n :: outer => r.1 :: more ((n - 1) :: outer) false r.2.1
  | _ => r.1 :: more r.2.2 r.1.token.precedesOperand r.2.1

theorem tokens_succ (limit n : Nat) (nesting : Nesting) (operand : Bool) (k : Cursor) :
    tokens limit (n + 1) nesting operand k = following limit (tokens limit n)
      (token limit nesting operand (skipBlanks (k.rest.length + 1) k)) := by
  rw [tokens]
  rfl

theorem level_following (limit : Nat) {more : Nesting → Bool → Cursor → List Located}
    (hmore : ∀ nesting operand k k', Level k k' →
      (more nesting operand k).map (·.token) = (more nesting operand k').map (·.token))
    {r s : Located × Cursor × Nesting} (h : SameCut (unplaced r) (unplaced s)) :
    (following limit more r).map (·.token) = (following limit more s).map (·.token) := by
  obtain ⟨⟨t, p⟩, k, nesting⟩ := r
  obtain ⟨⟨_, q⟩, k', _⟩ := s
  obtain ⟨htoken, hk, hnesting⟩ := h
  dsimp only [unplaced] at htoken hk hnesting
  subst htoken hnesting
  unfold following
  dsimp only
  split
  · rfl
  · rfl
  · split
    · exact congrArg (_ :: ·) (hmore _ _ _ _ hk)
    · exact congrArg (_ :: ·) (hmore _ _ _ _ hk)
    · rename_i outer
      have hcol : k.pos.col = k'.pos.col := by cases hk; assumption
      obtain ⟨htoken, hbehind, hnesting⟩ := level_backtick limit outer hcol hk
      rw [htoken, hnesting]
      split
      · rfl
      · exact congrArg (_ :: _ :: ·) (hmore _ _ _ _ hbehind)
    · exact congrArg (_ :: ·) (hmore _ _ _ _ hk)
  · exact congrArg (_ :: ·) (hmore _ _ _ _ hk)

theorem level_tokens (limit n : Nat) (nesting : Nesting) (operand : Bool) {k k' : Cursor}
    (h : Level k k') : (tokens limit n nesting operand k).map (·.token) =
      (tokens limit n nesting operand k').map (·.token) := by
  induction n generalizing nesting operand k k' with
  | zero => rfl
  | succ n ih =>
    have hblanks := level_skipBlanks (k.rest.length + 1) h
    rw [tokens_succ, tokens_succ, show k'.rest = k.rest by cases h; rfl]
    exact level_following limit (fun nesting operand _ _ hk => ih nesting operand hk)
      (level_token limit nesting operand hblanks)

end Lexer

end Scripting.Script
