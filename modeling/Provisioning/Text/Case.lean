set_option autoImplicit false

/-!
# Small letters

Keywords and the names of settings are compared in small letters.  They are written in ASCII, so that of all other
letters only the Kelvin sign matters: its small letter is the `k`.
-/

namespace Provisioning.Text

/-- Lower the ASCII letters of a text and keep everything else. -/
def asciiLower (s : String) : String := s.map Char.toLower

/-- The small letter of a letter, where that is an ASCII letter. -/
def smallLetter (c : Char) : Char := if c = '\u212a' then 'k' else c.toLower

/-- Lower the letters of a text whose small letters are ASCII letters. -/
def lower (s : String) : String := s.map smallLetter

end Provisioning.Text
