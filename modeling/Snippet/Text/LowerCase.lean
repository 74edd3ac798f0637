import Snippet.Text.Basic
import Snippet.Unicode.Cased
import Snippet.Unicode.Lower

/-!
# Texts in lower case

A text is put into lower case character by character, with one exception: a capital sigma at the end
of a word becomes the final sigma. It ends a word if a letter stands before it and none behind it,
where marks and the punctuation inside words do not count.
-/

namespace Snippet.Text

/-- Whether the first character that counts for case is a cased one. -/
def startsCased (t : Text) : Bool :=
  (t.dropWhile Unicode.isCaseIgnorable).head?.any Unicode.isCased

/-- The small form of a capital sigma, given the text before it, the last character first, and the
text behind it. -/
def smallSigma (before after : Text) : Char :=
  if startsCased before && !startsCased after then 'ς' else 'σ'

/-- A text in lower case that stands behind given characters, the last one of them first. -/
def lowerFrom (before : Text) : Text → Text
  | [] => []
  | c :: rest =>
    (if c = 'Σ' then [smallSigma before rest] else Unicode.lower c) ++ lowerFrom (c :: before) rest

def lowerCase (t : Text) : Text :=
  lowerFrom [] t

example : lowerCase "ΣΑΣ Σ. ΟΔΟΣ'" = "σας σ. οδος'".toList := by decide +kernel

end Snippet.Text
