import PayloadSchema.Text.Category.Letter
import PayloadSchema.Text.Category.Mark
import PayloadSchema.Text.Category.Numeric
import PayloadSchema.Text.Category.Punctuation
import PayloadSchema.Text.Category.Symbolic
import PayloadSchema.Text.Category.Separator

/-!
General categories of characters and the classes built from them: white space, letters, numbers
and the characters that are shown as they are.
-/
namespace PayloadSchema.Text

namespace Category

def assigned : List (String × String × List Span) :=
  [("lu", "uppercaseletter", uppercaseLetter), ("ll", "lowercaseletter", lowercaseLetter),
   ("lt", "titlecaseletter", titlecaseLetter), ("lm", "modifierletter", modifierLetter),
   ("lo", "otherletter", otherLetter), ("mn", "nonspacingmark", nonspacingMark),
   ("mc", "spacingmark", spacingMark), ("me", "enclosingmark", enclosingMark),
   ("nd", "decimalnumber", decimalNumber), ("nl", "letternumber", letterNumber),
   ("no", "othernumber", otherNumber), ("pc", "connectorpunctuation", connectorPunctuation),
   ("pd", "dashpunctuation", dashPunctuation), ("ps", "openpunctuation", openPunctuation),
   ("pe", "closepunctuation", closePunctuation), ("pi", "initialpunctuation", initialPunctuation),
   ("pf", "finalpunctuation", finalPunctuation), ("po", "otherpunctuation", otherPunctuation),
   ("sm", "mathsymbol", mathSymbol), ("sc", "currencysymbol", currencySymbol),
   ("sk", "modifiersymbol", modifierSymbol), ("so", "othersymbol", otherSymbol),
   ("zs", "spaceseparator", spaceSeparator), ("zl", "lineseparator", lineSeparator),
   ("zp", "paragraphseparator", paragraphSeparator), ("cc", "control", control),
   ("cf", "format", format), ("co", "privateuse", privateUse)]

def isAssigned (c : Char) : Bool := assigned.any fun (_, _, spans) => inSpans spans c

end Category

open Category

def blankSpans : List Span :=
  [⟨0x9, 0xD, 1⟩, ⟨0x20, 0x20, 1⟩, ⟨0x85, 0x85, 1⟩, ⟨0xA0, 0xA0, 1⟩, ⟨0x1680, 0x1680, 1⟩,
   ⟨0x2000, 0x200A, 1⟩, ⟨0x2028, 0x2029, 1⟩, ⟨0x202F, 0x202F, 1⟩, ⟨0x205F, 0x205F, 1⟩,
   ⟨0x3000, 0x3000, 1⟩]

def isBlank (c : Char) : Bool := inSpans blankSpans c

def trim (cs : List Char) : List Char :=
  ((cs.dropWhile isBlank).reverse.dropWhile isBlank).reverse

def isLetter (c : Char) : Bool :=
  [uppercaseLetter, lowercaseLetter, titlecaseLetter, modifierLetter, otherLetter].any
    fun spans => inSpans spans c

def isNumeric (c : Char) : Bool :=
  [decimalNumber, letterNumber, otherNumber].any fun spans => inSpans spans c

/-- Spacing marks and format characters that extend the character before them, as nonspacing and
enclosing marks do. -/
def otherExtendSpans : List Span :=
  [⟨0x9BE, 0x9BE, 1⟩, ⟨0x9D7, 0x9D7, 1⟩, ⟨0xB3E, 0xB3E, 1⟩, ⟨0xB57, 0xB57, 1⟩, ⟨0xBBE, 0xBBE, 1⟩,
   ⟨0xBD7, 0xBD7, 1⟩, ⟨0xCC0, 0xCC0, 1⟩, ⟨0xCC2, 0xCC2, 1⟩, ⟨0xCC7, 0xCC8, 1⟩, ⟨0xCCA, 0xCCB, 1⟩,
   ⟨0xCD5, 0xCD6, 1⟩, ⟨0xD3E, 0xD3E, 1⟩, ⟨0xD57, 0xD57, 1⟩, ⟨0xDCF, 0xDCF, 1⟩, ⟨0xDDF, 0xDDF, 1⟩,
   ⟨0x1715, 0x1715, 1⟩, ⟨0x1734, 0x1734, 1⟩, ⟨0x1B35, 0x1B35, 1⟩, ⟨0x1B3B, 0x1B3B, 1⟩,
   ⟨0x1B3D, 0x1B3D, 1⟩, ⟨0x1B43, 0x1B44, 1⟩, ⟨0x1BAA, 0x1BAA, 1⟩, ⟨0x1BF2, 0x1BF3, 1⟩,
   ⟨0x200C, 0x200C, 1⟩, ⟨0x302E, 0x302F, 1⟩, ⟨0xA953, 0xA953, 1⟩, ⟨0xA9C0, 0xA9C0, 1⟩,
   ⟨0x111C0, 0x111C0, 1⟩, ⟨0x11235, 0x11235, 1⟩, ⟨0x1133E, 0x1133E, 1⟩,
   ⟨0x1134D, 0x1134D, 1⟩, ⟨0x11357, 0x11357, 1⟩, ⟨0x113B8, 0x113B8, 1⟩, ⟨0x113C2, 0x113C2, 1⟩,
   ⟨0x113C5, 0x113C5, 1⟩, ⟨0x113C7, 0x113C9, 1⟩, ⟨0x113CF, 0x113CF, 1⟩, ⟨0x114B0, 0x114B0, 1⟩,
   ⟨0x114BD, 0x114BD, 1⟩, ⟨0x115AF, 0x115AF, 1⟩, ⟨0x116B6, 0x116B6, 1⟩, ⟨0x11930, 0x11930, 1⟩,
   ⟨0x1193D, 0x1193D, 1⟩, ⟨0x11F41, 0x11F41, 1⟩, ⟨0x16FF0, 0x16FF1, 1⟩, ⟨0x1D165, 0x1D166, 1⟩,
   ⟨0x1D16D, 0x1D172, 1⟩, ⟨0xE0020, 0xE007F, 1⟩]

def isExtender (c : Char) : Bool :=
  inSpans nonspacingMark c || inSpans enclosingMark c || inSpans otherExtendSpans c

/-- Letters without a shape, which fill an empty place of a syllable. -/
def fillerSpans : List Span :=
  [⟨0x115F, 0x1160, 1⟩, ⟨0x3164, 0x3164, 1⟩, ⟨0xFFA0, 0xFFA0, 1⟩]

/-- Whether a character is shown as it is: it is assigned, neither an invisible nor a separating
one (the space apart), and does not extend its neighbour. -/
def isVisible (c : Char) : Bool :=
  c == ' ' || (isAssigned c && !isExtender c && !inSpans fillerSpans c
    && !([spaceSeparator, lineSeparator, paragraphSeparator, control, format, privateUse].any
      fun spans => inSpans spans c))

end PayloadSchema.Text
