import SpeechProbe.Json.Reader
import SpeechProbe.Json.Writer

/-!
# Strings there and back

A character is written as itself, as one of seven short escapes or by its number, and each of
these is read as that one character whatever follows (`stringBody_escaped`).  So a string is read
back whole, and nothing in it ends it early (`string_append`).
-/

namespace SpeechProbe.Json

/-- The two digits of a control character are read as its number. -/
theorem hex4?_hexDigit : ∀ n : Nat, n < 0x20 →
    hex4? '0' '0' (hexDigit (n / 16)) (hexDigit (n % 16)) = some n := by
  decide

theorem stringBody_escaped (c : Char) (rest : List Char) :
    stringBody (escaped c ++ rest) =
      (stringBody rest).map fun (body, left) => (c :: body, left) := by
  by_cases hquote : c = '"'
  · subst hquote
    simp [escaped, stringBody, escape?]
  by_cases hslash : c = '\\'
  · subst hslash
    simp [escaped, stringBody, escape?]
  by_cases hback : c = '\x08'
  · subst hback
    simp [escaped, stringBody, escape?]
  by_cases hfeed : c = '\x0c'
  · subst hfeed
    simp [escaped, stringBody, escape?]
  by_cases hline : c = '\n'
  · subst hline
    simp [escaped, stringBody, escape?]
  by_cases hreturn : c = '\r'
  · subst hreturn
    simp [escaped, stringBody, escape?]
  by_cases htab : c = '\t'
  · subst htab
    simp [escaped, stringBody, escape?]
  by_cases hcontrol : c.toNat < 0x20
  · have hlow : isLowSurrogate c.toNat = false := by
      simp only [isLowSurrogate, Bool.and_eq_false_iff, decide_eq_false_iff_not]
      omega
    have hhigh : isHighSurrogate c.toNat = false := by
      simp only [isHighSurrogate, Bool.and_eq_false_iff, decide_eq_false_iff_not]
      omega
    simp [escaped, hquote, hslash, hback, hfeed, hline, hreturn, htab, hcontrol, stringBody,
      hex4?_hexDigit c.toNat hcontrol, hlow, hhigh]
  · simp [escaped, hquote, hslash, hback, hfeed, hline, hreturn, htab, hcontrol, stringBody]

theorem stringBody_flatMap_escaped (chars rest : List Char) :
    stringBody (chars.flatMap escaped ++ '"' :: rest) = some (chars, rest) := by
  induction chars with
  | nil => rfl
  | cons c chars ih =>
    rw [List.flatMap_cons, List.append_assoc, stringBody_escaped, ih]
    rfl

/-- What is written of a text after the opening quote is read as that text. -/
theorem string_append (text : String) (rest : List Char) :
    string (text.toList.flatMap escaped ++ '"' :: rest) = some (some text, rest) := by
  rw [string, stringBody_flatMap_escaped]
  simp only [String.ofList_toList]

theorem stringChars_append (text : String) (rest : List Char) :
    stringChars text ++ rest = '"' :: (text.toList.flatMap escaped ++ '"' :: rest) := by
  simp [stringChars]

end SpeechProbe.Json
