import FocusBilling.Compile.SqlStep
import FocusBilling.Rule.Literal
import Mathlib.Data.List.Forall2
import Mathlib.Data.Nat.Init

/-!
# Texts that are cut into given tokens

A text that is put together of pieces with blanks between them is cut into the tokens of its pieces,
provided that no piece reaches over the blank behind it.

* `Spells` : a piece is cut into given tokens, whatever stands behind the blank that follows it;
* `Spells.append`, `Spells.intercalate` : pieces with blanks between them;
* `spells_capitals` : keywords;
* `spells_quoteIdentifier`, `spells_quotedSql` : names and texts between quotes, whatever characters
  they hold;
* `tokens?_of_spells` : the tokens of a whole text.
-/

namespace FocusBilling

namespace Sql

open Text

/-- Whether a token is a word. -/
def Token.isWord : Token → Bool
  | .word .. => true
  | _ => false

/-! ### One step -/

section Step

variable {n : Nat} {p : Place} {w : Bool} {c : Char} {cs r : List Char} {t : Token}

theorem tokensFrom_blank :
    tokensFrom (n + 1) p w (' ' :: cs) = tokensFrom n (p.behind ' ') false cs := by
  rfl

theorem tokensFrom_token (hb : isBlank c = false) (hd : c = '-' → cs.head? ≠ some '-')
    (hs : c ≠ '/') (h : tokenAt w (c :: cs) = some (t, r)) :
    ∃ p', tokensFrom (n + 1) p w (c :: cs) =
      (tokensFrom n p' t.isWord r).map (⟨t, p, p'⟩ :: ·) := by
  refine ⟨p.behindAll ((c :: cs).take ((c :: cs).length - r.length)), ?_⟩
  rw [tokensFrom]
  simp only [hb, Bool.false_eq_true, if_false]
  split
  next heq _ =>
    obtain ⟨rfl, rfl⟩ := List.cons.inj heq
    simp at hd
  next heq _ =>
    obtain ⟨rfl, rfl⟩ := List.cons.inj heq
    exact absurd rfl hs
  next =>
    simp only [h]
    rfl

end Step

/-! ### Pieces -/

/-- Characters that are cut into given tokens, whatever stands behind the blank that follows them.
The steps are counted, as a text may be cut in so many steps as it is long. -/
def Spells (cs : List Char) (ts : List Token) : Prop :=
  ∃ k ≤ cs.length + 1, ∀ n p rest, ∃ ls p', ls.map Located.token = ts ∧
    tokensFrom (n + k) p false (cs ++ ' ' :: rest) = (tokensFrom n p' false rest).map (ls ++ ·)

namespace Spells

variable {c : Char} {cs ds : List Char} {t : Token} {ts us : List Token}

/-- One token. -/
theorem token (hb : isBlank c = false) (hd : c = '-' → cs.head? = none) (hs : c ≠ '/')
    (h : ∀ rest, tokenAt false (c :: (cs ++ ' ' :: rest)) = some (t, ' ' :: rest)) :
    Spells (c :: cs) [t] := by
  refine ⟨2, by simp, fun n p rest => ?_⟩
  have hdash : c = '-' → (cs ++ ' ' :: rest).head? ≠ some '-' := by
    intro hc
    have hcs : cs = [] := List.head?_eq_none_iff.1 (hd hc)
    simp [hcs]
  obtain ⟨p', hstep⟩ := tokensFrom_token (n := n + 1) (p := p) hb hdash hs (h rest)
  refine ⟨[⟨t, p, p'⟩], p'.behind ' ', rfl, ?_⟩
  rw [List.cons_append, hstep, tokensFrom_blank]
  rfl

/-- A token that is no word, with another piece right behind it. -/
theorem cons (hb : isBlank c = false) (hd : c = '-' → ds.head? ≠ some '-') (hs : c ≠ '/')
    (ht : t.isWord = false)
    (h : ∀ rest, tokenAt false (c :: (ds ++ ' ' :: rest)) = some (t, ds ++ ' ' :: rest))
    (hds : Spells ds us) : Spells (c :: ds) (t :: us) := by
  obtain ⟨k, hk, hsteps⟩ := hds
  refine ⟨k + 1, by simp only [List.length_cons]; omega, fun n p rest => ?_⟩
  have hdash : c = '-' → (ds ++ ' ' :: rest).head? ≠ some '-' := by
    intro hc
    cases ds with
    | nil => simp
    | cons d ds => exact hd hc
  obtain ⟨p₁, hstep⟩ := tokensFrom_token (n := n + k) (p := p) hb hdash hs (h rest)
  obtain ⟨ls, p₂, hls, hrest⟩ := hsteps n p₁ rest
  refine ⟨⟨t, p, p₁⟩ :: ls, p₂, by simp [hls], ?_⟩
  rw [← Nat.add_assoc, List.cons_append, hstep, ht, hrest, Option.map_map]
  rfl

/-- Two pieces with a blank between them. -/
theorem append (hcs : Spells cs ts) (hds : Spells ds us) :
    Spells (cs ++ ' ' :: ds) (ts ++ us) := by
  obtain ⟨k, hk, hfirst⟩ := hcs
  obtain ⟨l, hl, hsecond⟩ := hds
  refine ⟨l + k, by simp only [List.length_append, List.length_cons]; omega, fun n p rest => ?_⟩
  obtain ⟨ls, p₁, hls, h₁⟩ := hfirst (n + l) p (ds ++ ' ' :: rest)
  obtain ⟨ms, p₂, hms, h₂⟩ := hsecond n p₁ rest
  refine ⟨ls ++ ms, p₂, by simp [hls, hms], ?_⟩
  rw [← Nat.add_assoc, List.append_assoc, List.cons_append, h₁, h₂, Option.map_map]
  simp only [Function.comp_def, List.append_assoc]

/-- Pieces with blanks between them. -/
theorem intercalate {texts : List String} {tokens : List (List Token)} (hne : texts ≠ [])
    (h : List.Forall₂ (fun s ts => Spells s.toList ts) texts tokens) :
    Spells (String.intercalate " " texts).toList tokens.flatten := by
  induction h with
  | nil => exact absurd rfl hne
  | @cons s ts texts tokens hs hrest ih =>
    cases hrest with
    | nil => simpa using hs
    | cons h₁ h₂ =>
      rw [String.intercalate_cons_cons, List.flatten_cons]
      simpa using hs.append (ih (by simp))

end Spells

/-- The tokens of a text that ends in a piece of its own. -/
theorem tokens?_of_spells {s last : String} {cs : List Char} {ts : List Token} {t : Token}
    (hs : s.toList = cs ++ ' ' :: last.toList) (hcs : Spells cs ts)
    (hlast : ∀ n p, 2 ≤ n → ∃ l, l.token = t ∧ tokensFrom n p false last.toList = some [l])
    (hl : last.toList ≠ []) :
    ∃ ls, ls.map Located.token = ts ++ [t] ∧ tokens? s = some ls := by
  obtain ⟨k, hk, hsteps⟩ := hcs
  have hpos : 0 < last.toList.length := List.length_pos_iff.2 hl
  have hlen : s.toList.length + 1 = (cs.length + 1 - k + last.toList.length + 1) + k := by
    simp only [hs, List.length_append, List.length_cons]
    omega
  -- as many steps are left for the last piece as it has characters, and some more
  obtain ⟨ls, p', hls, h⟩ := hsteps (cs.length + 1 - k + last.toList.length + 1) ⟨1, 1⟩ last.toList
  obtain ⟨l, ht, hend⟩ := hlast (cs.length + 1 - k + last.toList.length + 1) p' (by omega)
  refine ⟨ls ++ [l], by simp [hls, ht], ?_⟩
  simp only [tokens?, hlen]
  rw [hs, h, hend]
  rfl

/-! ### Words -/

/-- The letters that keywords are spelled in. -/
def capitals : List Char := "ABCDEFGHIJKLMNOPQRSTUVWXYZ".toList

/-- Whether a text is a word in capitals. -/
def isCapitals (w : String) : Bool := !w.toList.isEmpty && w.toList.all capitals.contains

/-- A word in capitals is one word. -/
theorem spells_capitals {w : String} (h : isCapitals w = true) :
    Spells w.toList [.word w none] := by
  simp only [isCapitals, Bool.and_eq_true, Bool.not_eq_true', List.isEmpty_eq_false_iff,
    List.all_eq_true, List.contains_iff_mem] at h
  obtain ⟨hne, hw⟩ := h
  have htable : capitals.all (fun c => !isBlank c && (!isDigit c && (isNameStart c &&
      !(['-', '/', '\'', '"', '`', '.', '?', '$', '@', '#', '&'].contains c)))) = true := rfl
  have hletters : ∀ c ∈ capitals, isBlank c = false ∧ isDigit c = false ∧ isNameStart c = true ∧
      c ∉ ['-', '/', '\'', '"', '`', '.', '?', '$', '@', '#', '&'] := by
    intro c hc
    have h := List.all_eq_true.1 htable c hc
    simpa only [Bool.and_eq_true, Bool.not_eq_true', List.contains_eq_mem,
      decide_eq_false_iff_not] using h
  obtain ⟨c, cs, hcs⟩ := List.exists_cons_of_ne_nil hne
  rw [hcs] at hw
  obtain ⟨hblank, hdigit, hstart, hsigns⟩ := hletters c (hw c List.mem_cons_self)
  simp only [List.mem_cons, List.not_mem_nil, or_false, not_or] at hsigns
  rw [hcs]
  refine .token hblank (fun h => absurd h hsigns.1) hsigns.2.1 fun rest => ?_
  -- no letter in front of a letter or a blank opens a text
  have hplain : letteredText (c :: (cs ++ ' ' :: rest)) = none := by
    cases cs with
    | nil => rfl
    | cons d ds =>
      have hd := (hletters d (hw d (by simp))).2.2.2
      unfold letteredText
      split
      case h_4 => rfl
      all_goals
        next heq =>
          obtain ⟨_, heq⟩ := List.cons.inj heq
          obtain ⟨rfl, _⟩ := List.cons.inj heq
          exact absurd hd (by decide)
  have hword : wordAt 1 (c :: (cs ++ ' ' :: rest)) = (.word w none, ' ' :: rest) := by
    have hrest : ∀ d ∈ cs, isNamePart d = true := fun d hd => by
      simp [isNamePart, hletters d (hw d (List.mem_cons_of_mem c hd))]
    have hblank : isNamePart ' ' = false := by decide
    rw [wordAt, List.drop_one, List.tail_cons, List.takeWhile_append_of_pos hrest,
      List.dropWhile_append_of_pos hrest]
    simp [hblank, ← hcs]
  rw [tokenAt, hplain]
  simp [hsigns, hdigit, hstart, hword]

/-! ### Quotes -/

/-- A text between quotes, where quotes are doubled, is read back whole. -/
theorem untilQuote_doubled {q d : Char} (hd : d ≠ q) (s rest : List Char) :
    untilQuote q ((s.flatMap fun c => if c = q then [q, q] else [c]) ++ q :: d :: rest) =
      some (s, d :: rest) := by
  induction s with
  | nil => simp [untilQuote, hd]
  | cons c s ih =>
    by_cases hc : c = q
    · simp [hc, untilQuote, ih]
    · simp only [List.flatMap_cons, hc, if_false, List.cons_append, List.nil_append]
      unfold untilQuote
      simp [hc, ih]

/-- Only few letters in front of a quote open a text of their own. -/
theorem letteredText_eq_none {c : Char}
    (h : c ∉ ['b', 'B', 'r', 'R', 'n', 'N', 'x', 'X', 'e', 'E', 'u', 'U']) (cs : List Char) :
    letteredText (c :: cs) = none := by
  simp only [List.mem_cons, List.not_mem_nil, or_false, not_or] at h
  unfold letteredText
  split
  case h_4 => rfl
  all_goals
    next heq =>
      obtain ⟨rfl, rfl⟩ := List.cons.inj heq
      simp [h]

/-- A quoted name is one word, whatever characters it has. -/
theorem spells_quoteIdentifier (name : String) :
    Spells (quoteIdentifier name).toList [.word name (some '"')] := by
  have hlist : (quoteIdentifier name).toList =
      '"' :: ((name.toList.flatMap fun c => if c = '"' then ['"', '"'] else [c]) ++ ['"']) := by
    simp [quoteIdentifier, replaceChar]
  rw [hlist]
  refine .token rfl (fun h => absurd h (by decide)) (by decide) fun rest => ?_
  have hquote := untilQuote_doubled (q := '"') (d := ' ') (by decide) name.toList rest
  rw [List.append_assoc, List.singleton_append, tokenAt, letteredText_eq_none (by decide)]
  simp [hquote]

/-- A quoted text is one token, whatever characters it has. -/
theorem spells_quotedSql (s : String) :
    Spells (Literal.quotedSql s).toList [.text .plain s] := by
  have hlist : (Literal.quotedSql s).toList =
      '\'' :: ((s.toList.flatMap fun c => if c = '\'' then ['\'', '\''] else [c]) ++ ['\'']) := by
    simp [Literal.quotedSql]
  rw [hlist]
  refine .token rfl (fun h => absurd h (by decide)) (by decide) fun rest => ?_
  have hquote := untilQuote_doubled (q := '\'') (d := ' ') (by decide) s.toList rest
  rw [List.append_assoc, List.singleton_append, tokenAt, letteredText_eq_none (by decide)]
  simp only [if_true, hquote, styled, Option.map_some, String.ofList_toList]

end Sql

end FocusBilling
