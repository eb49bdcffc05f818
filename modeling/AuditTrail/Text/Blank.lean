/-!
# Blank characters

The Unicode `White_Space` property: the ASCII tab, line feed, vertical tab, form feed, carriage
return and space, the next line control `U+0085`, the no-break space `U+00A0`, the Ogham space
mark, the spaces `U+2000` to `U+200A`, the line and paragraph separators, the narrow no-break
space, the medium mathematical space and the ideographic space `U+3000`. The zero width space
`U+200B` is not among them.

A value is *blank* when nothing but such characters remains after trimming; required fields and
names are checked that way.

## Main definitions

* `isBlankChar` — membership in `White_Space`
* `trimBlank` — drop blank characters at both ends
* `isBlank` — a text that trims to nothing
-/

namespace AuditTrail

/-- Membership of a character in the Unicode `White_Space` property. -/
def isBlankChar (c : Char) : Bool :=
  let n := c.toNat
  (0x09 ≤ n && n ≤ 0x0D) || n == 0x20 || n == 0x85 || n == 0xA0 || n == 0x1680 ||
    (0x2000 ≤ n && n ≤ 0x200A) || n == 0x2028 || n == 0x2029 || n == 0x202F || n == 0x205F ||
    n == 0x3000

/-- Every character that core's ASCII whitespace test accepts is blank. -/
theorem isBlankChar_of_isWhitespace (c : Char) (h : c.isWhitespace = true) :
    isBlankChar c = true := by
  simp only [Char.isWhitespace, Bool.or_eq_true, decide_eq_true_eq] at h
  simp only [isBlankChar, Bool.or_eq_true, Bool.and_eq_true, decide_eq_true_eq, beq_iff_eq]
  rcases h with ((h | h) | h) | h <;> subst h <;> decide

/-- The characters of a text without its leading blanks. -/
def dropBlank (cs : List Char) : List Char := cs.dropWhile isBlankChar

/-- A text without blank characters at either end. -/
def trimBlank (s : String) : String :=
  String.ofList (dropBlank (dropBlank s.toList).reverse).reverse

/-- A text that is empty once trimmed. -/
def isBlank (s : String) : Bool := s.toList.all isBlankChar

end AuditTrail
