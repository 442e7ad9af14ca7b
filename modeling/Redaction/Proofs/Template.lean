import Mathlib.Data.List.Forall2
import Redaction.Proofs.Success
import Redaction.Template

/-!
# The text of a template

A template is written token by token: a character other than a brace as it is, a brace twice, and a
placeholder as its inside between braces. `Reads` says so without regard to how the reader works,
and all that the reader accepts is written in this way: every character ends a token or is kept for
the one under way.

`Fills` puts texts in the places of the placeholders and leaves everything else as it is. Putting
the texts of the pieces together fills the template that the pieces come from.
-/

namespace Redaction.Template

/-- What can stand between the braces of a placeholder: nothing that ends it, and no brace at the
beginning, which would make a doubled one. -/
structure Enclosed (inside : List Char) : Prop where
  unclosed : '}' ∉ inside
  single : inside.head? ≠ some '{'

/-- The characters are a way to write the token. -/
inductive Token.Written : List Char → Token → Prop where
  | char {c : Char} (notOpen : c ≠ '{') (notClose : c ≠ '}') : Written [c] (.char c)
  | doubledOpen : Written ['{', '{'] (.char '{')
  | doubledClose : Written ['}', '}'] (.char '}')
  | placeholder {inside : List Char} {token : Token} (enclosed : Enclosed inside)
      (read : readPlaceholder inside = .ok token) : Written ('{' :: (inside ++ ['}'])) token

/-- The characters are a way to write the tokens, one after another. -/
inductive Reads : List Char → List Token → Prop where
  | nil : Reads [] []
  | cons {first rest : List Char} {token : Token} {tokens : List Token}
      (here : token.Written first) (others : Reads rest tokens) :
      Reads (first ++ rest) (token :: tokens)

namespace Position

/-- The characters that were read since the last token. -/
def written : Position → List Char
  | .text => []
  | .opened => ['{']
  | .inside read => '{' :: read.reverse
  | .closed => ['}']

/-- Between braces at least one character was read, and none that ends the placeholder. -/
def Valid : Position → Prop
  | .inside read => read ≠ [] ∧ Enclosed read.reverse
  | _ => True

end Position

theorem Enclosed.append {inside : List Char} (h : Enclosed inside) (hinside : inside ≠ [])
    {c : Char} (hc : c ≠ '}') : Enclosed (inside ++ [c]) := by
  refine ⟨by simp [h.unclosed, Ne.symm hc], ?_⟩
  rw [List.head?_append_of_ne_nil inside hinside]
  exact h.single

/-- What reading one character does: it is kept for the token under way, or it ends this token. -/
theorem scan_cons_eq_ok {position : Position} {c : Char} {cs : List Char} {tokens : List Token}
    (valid : position.Valid) (h : scan position (c :: cs) = .ok tokens) :
    (∃ next : Position, next.Valid ∧ next.written = position.written ++ [c] ∧
      scan next cs = .ok tokens) ∨
    ∃ token others, token.Written (position.written ++ [c]) ∧ scan .text cs = .ok others ∧
      tokens = token :: others := by
  cases position with
  | text =>
      rw [scan] at h
      split at h
      next hopen => exact .inl ⟨.opened, trivial, by rw [hopen]; rfl, h⟩
      next hopen =>
        split at h
        next hclose => exact .inl ⟨.closed, trivial, by rw [hclose]; rfl, h⟩
        next hclose =>
          simp only [bind_eq_ok, pure_eq_ok] at h
          obtain ⟨others, hothers, rfl⟩ := h
          exact .inr ⟨_, others, .char hopen hclose, hothers, rfl⟩
  | opened =>
      rw [scan] at h
      split at h
      next hopen =>
        simp only [bind_eq_ok, pure_eq_ok] at h
        obtain ⟨others, hothers, rfl⟩ := h
        exact .inr ⟨_, others, by rw [hopen]; exact .doubledOpen, hothers, rfl⟩
      next hopen =>
        split at h
        next hclose =>
          simp only [bind_eq_ok, pure_eq_ok] at h
          obtain ⟨token, htoken, others, hothers, rfl⟩ := h
          have hempty : Enclosed [] := ⟨by simp, by simp⟩
          exact .inr ⟨token, others, by rw [hclose]; exact .placeholder hempty htoken, hothers,
            rfl⟩
        next hclose =>
          have hinside : Enclosed [c] := ⟨by simpa using Ne.symm hclose, by simpa using hopen⟩
          exact .inl ⟨.inside [c], ⟨by simp, hinside⟩, rfl, h⟩
  | inside read =>
      rw [scan] at h
      split at h
      next hclose =>
        simp only [bind_eq_ok, pure_eq_ok] at h
        obtain ⟨token, htoken, others, hothers, rfl⟩ := h
        exact .inr ⟨token, others, by rw [hclose]; exact .placeholder valid.2 htoken, hothers, rfl⟩
      next hclose =>
        have hinside : Enclosed (c :: read).reverse := by
          rw [List.reverse_cons]
          exact valid.2.append (by simpa using valid.1) hclose
        exact .inl ⟨.inside (c :: read), ⟨by simp, hinside⟩, by simp [Position.written], h⟩
  | closed =>
      rw [scan] at h
      split at h
      next hclose =>
        simp only [bind_eq_ok, pure_eq_ok] at h
        obtain ⟨others, hothers, rfl⟩ := h
        exact .inr ⟨_, others, by rw [hclose]; exact .doubledClose, hothers, rfl⟩
      next => cases h

/-- The tokens that are scanned are what the characters are a way to write, together with those
that were read before. -/
theorem reads_of_scan (position : Position) {cs : List Char} {tokens : List Token}
    (valid : position.Valid) (h : scan position cs = .ok tokens) :
    Reads (position.written ++ cs) tokens := by
  induction cs generalizing position tokens with
  | nil =>
      cases position with
      | text =>
          cases h
          exact .nil
      | opened => cases h
      | inside read => cases h
      | closed => cases h
  | cons c cs ih =>
      have hcons : position.written ++ c :: cs = (position.written ++ [c]) ++ cs := by simp
      rw [hcons]
      obtain ⟨next, hnext, hwritten, hscan⟩ | ⟨token, others, htoken, hscan, rfl⟩ :=
        scan_cons_eq_ok valid h
      · rw [← hwritten]
        exact ih next hnext hscan
      · exact .cons htoken (ih .text trivial hscan)

/-- The pieces of a template are put together from the tokens that it is written in. -/
theorem parse_eq_ok {template : String} {pieces : List Piece} (h : parse template = .ok pieces) :
    ∃ tokens, Reads template.toList tokens ∧ pieces = assemble 0 [] tokens := by
  simp only [parse, bind_eq_ok, pure_eq_ok] at h
  obtain ⟨tokens, hscan, rfl⟩ := h
  exact ⟨tokens, reads_of_scan .text trivial hscan, rfl⟩

/-- The text is the template of these tokens with a text in the place of every placeholder; which
texts may stand there depends on the key and the mode, and `next` is the position that the next
placeholder without an argument takes. -/
inductive Fills (shows : Key → Mode → String → Prop) : Nat → List Token → List Char → Prop where
  | nil {next : Nat} : Fills shows next [] []
  | char {next : Nat} {c : Char} {tokens : List Token} {text : List Char}
      (rest : Fills shows next tokens text) : Fills shows next (.char c :: tokens) (c :: text)
  | next {next : Nat} {mode : Mode} {shown : String} {tokens : List Token} {text : List Char}
      (here : shows (.index next) mode shown) (rest : Fills shows (next + 1) tokens text) :
      Fills shows next (.placeholder .next mode :: tokens) (shown.toList ++ text)
  | key {next : Nat} {key : Key} {mode : Mode} {shown : String} {tokens : List Token}
      {text : List Char} (here : shows key mode shown) (rest : Fills shows next tokens text) :
      Fills shows next (.placeholder (.key key) mode :: tokens) (shown.toList ++ text)

/-- The text that a piece stands for: a literal itself, a field a text that may be shown for it. -/
inductive Piece.Shows (shows : Key → Mode → String → Prop) : Piece → String → Prop where
  | literal (text : String) : Shows shows (.literal text) text
  | field {key : Key} {mode : Mode} {shown : String} (here : shows key mode shown) :
      Shows shows (.field key mode) shown

variable {shows : Key → Mode → String → Prop}

/-- A literal in front of pieces adds its characters in front of their texts. -/
theorem shows_flush {read : List Char} {pieces : List Piece} {texts : List String}
    (h : List.Forall₂ (Piece.Shows shows) (flush read pieces) texts) :
    ∃ others, List.Forall₂ (Piece.Shows shows) pieces others ∧
      (String.join texts).toList = read.reverse ++ (String.join others).toList := by
  rw [flush] at h
  split at h
  next hread => exact ⟨texts, h, by rw [hread]; rfl⟩
  next =>
    cases h with
    | @cons _ _ _ others first rest =>
        cases first
        exact ⟨others, rest, by simp⟩

/-- The texts of the pieces, put together, fill the template of the tokens that the pieces are made
from. -/
theorem fills_of_assemble {next : Nat} {read : List Char} {tokens : List Token}
    {texts : List String} (h : List.Forall₂ (Piece.Shows shows) (assemble next read tokens) texts) :
    ∃ text, Fills shows next tokens text ∧ (String.join texts).toList = read.reverse ++ text := by
  induction tokens generalizing next read texts with
  | nil =>
      obtain ⟨others, hothers, htext⟩ := shows_flush h
      cases hothers
      exact ⟨[], .nil, by simpa using htext⟩
  | cons token tokens ih =>
      cases token with
      | char c =>
          obtain ⟨text, hfills, htext⟩ := ih h
          exact ⟨c :: text, .char hfills, by simpa using htext⟩
      | placeholder argument mode =>
          cases argument with
          | next =>
              obtain ⟨others, hothers, htext⟩ := shows_flush h
              cases hothers with
              | cons first rest =>
                  cases first with
                  | field here =>
                      obtain ⟨text, hfills, hrest⟩ := ih rest
                      exact ⟨_, .next here hfills, by simpa [hrest] using htext⟩
          | key key =>
              obtain ⟨others, hothers, htext⟩ := shows_flush h
              cases hothers with
              | cons first rest =>
                  cases first with
                  | field here =>
                      obtain ⟨text, hfills, hrest⟩ := ih rest
                      exact ⟨_, .key here hfills, by simpa [hrest] using htext⟩

end Redaction.Template
