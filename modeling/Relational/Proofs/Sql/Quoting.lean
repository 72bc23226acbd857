import Relational.Proofs.Sql.Lexer

/-!
# String literals

`Text.quote` escapes the quotes of a text and nothing else. A statement reads the literal back as the text, unless the
text ends with a backslash: that one comes to stand before the closing quote and escapes it, so the literal stays open
and holds the quote instead.
-/

namespace Relational.Sql

open Text Condition

/-! ## The body of a literal -/

/-- Escaped quotes are read back, whatever comes after them. Only a quote that comes right after a backslash at the end
would be taken for one more. -/
theorem stringBody_escapeQuotes {content tail : List Char}
    (htail : content.getLast? = some '\\' → NotNext (· == '\'') tail) :
    stringBody '\'' (escapeQuotes content ++ tail) =
      (content ++ (stringBody '\'' tail).1, (escapeQuotes content).length + (stringBody '\'' tail).2) := by
  induction content with
  | nil => simp [escapeQuotes]
  | cons c content ih =>
    have hcontent : content.getLast? = some '\\' → NotNext (· == '\'') tail := by
      intro hlast
      refine htail ?_
      rw [List.getLast?_cons, hlast]
      rfl
    rw [escapeQuotes_cons]
    by_cases hc : c = '\''
    · rw [if_pos hc, List.append_assoc, List.cons_append, List.cons_append, List.nil_append, stringBody_escape,
        ih hcontent, hc, List.length_append]
      exact Prod.ext rfl (by simp only [List.length_cons, List.length_nil]; omega)
    · have hnext : c = '\\' → NotNext (· == '\'') (escapeQuotes content ++ tail) := by
        intro hslash
        cases content with
        | nil => exact htail (by rw [hslash]; rfl)
        | cons d content =>
          have hhead := head_escapeQuotes (d :: content)
          rw [escapeQuotes_cons] at hhead ⊢
          split
          · simp
          · simpa using ‹_›
      rw [if_neg hc, List.singleton_append, List.cons_append, stringBody_other hc hnext, ih hcontent, List.length_cons]
      exact Prod.ext rfl (by dsimp only; omega)

/-- A text that ends with no backslash is the content of its literal. -/
theorem stringBody_closed {content : List Char} (h : content.getLast? ≠ some '\\') :
    stringBody '\'' (escapeQuotes content ++ ['\'']) = (content, (escapeQuotes content).length + 1) := by
  rw [stringBody_escapeQuotes fun hlast => absurd hlast h, stringBody_close (by decide), List.append_nil]

/-- The backslash at the end of a text is dropped and the closing quote taken in its place. -/
theorem stringBody_open (content : List Char) : stringBody '\'' (escapeQuotes (content ++ ['\\']) ++ ['\'']) =
    (content ++ ['\''], (escapeQuotes (content ++ ['\\'])).length + 1) := by
  have hescaped : escapeQuotes (content ++ ['\\']) = escapeQuotes content ++ ['\\'] := by
    rw [escapeQuotes, List.flatMap_append]
    rfl
  rw [hescaped, List.append_assoc, List.singleton_append, stringBody_escapeQuotes fun _ => by simp, List.length_append]
  rfl

/-! ## The token of a literal -/

/-- A literal is one token, as its quote is closed at the end or not at all. -/
theorem tokenize_quote {t text : String}
    (h : stringBody '\'' (escapeQuotes t.toList ++ ['\'']) = (text.toList, (escapeQuotes t.toList).length + 1)) :
    tokenize (quote t) =
      [⟨.string, text, .start⟩, ⟨.endOfFile, "", Position.start.advanceOver (quoteChars t.toList)⟩] := by
  have hgap : gap? '\'' (escapeQuotes t.toList ++ ['\'']) = none :=
    gap?_eq_none (by decide) (startsComment_of_ne (by decide))
  have hlexeme : lexeme '\'' (escapeQuotes t.toList ++ ['\'']) =
      (.string, text, (escapeQuotes t.toList).length + 1) := by
    rw [lexeme, if_neg (by decide), if_neg (by decide), if_pos (by decide), h]
    dsimp only
    rw [String.ofList_toList]
  rw [tokenize, quote, String.toList_ofList, quoteChars, tokenizeFrom_token hgap, hlexeme]
  dsimp only
  rw [List.take_of_length_le (by simp), List.drop_eq_nil_of_le (by simp), tokenizeFrom_nil]

/-- A literal is the one token that holds its text if and only if the text does not end with a backslash. -/
theorem tokenize_quote_iff (t : String) :
    (tokenize (quote t)).map (fun token => (token.kind, token.text)) = [(.string, t), (.endOfFile, "")] ↔
      t.toList.getLast? ≠ some '\\' := by
  constructor
  · intro h hlast
    obtain ⟨content, hcontent⟩ := List.getLast?_eq_some_iff.1 hlast
    have hbody := stringBody_open content
    rw [← hcontent, ← String.toList_ofList (l := content ++ ['\''])] at hbody
    rw [tokenize_quote hbody] at h
    -- the content would end with a quote
    have htext : String.ofList (content ++ ['\'']) = t := (Prod.ext_iff.1 (List.cons.inj h).1).2
    rw [← htext, String.toList_ofList] at hlast
    simp at hlast
  · intro h
    rw [tokenize_quote (stringBody_closed h)]
    rfl

/-- The literal of a letter and a backslash is read as a letter and a quote. -/
theorem tokenize_quote_backslash :
    (tokenize (quote "a\\")).map (fun token => (token.kind, token.text)) = [(.string, "a'"), (.endOfFile, "")] ∧
      "a'" ≠ "a\\" := by
  decide +kernel

end Relational.Sql
