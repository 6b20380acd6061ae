import EditBox.Unicode.EastAsianWide
import EditBox.Unicode.Emoji
import EditBox.Unicode.Joining
import EditBox.Unicode.ZeroWidth

/-!
# Cell widths

How many cells of a fixed-pitch grid a text fills. A character has a width of its own, and some
sequences are drawn as one: a carriage return with its line feed, emoji with selectors, skin tones,
joiners or tags, quotation marks with a selector, and the ligatures of a few scripts. The text is
read from its end; what follows a character is summed up in a `Context`, which decides whether the
character starts such a sequence.
-/

namespace EditBox.Cell

open EditBox.Unicode

/-- How the text after a character begins, as far as sequences are concerned. -/
inductive Lead where
  /-- Nothing that a character before it could join. -/
  | plain
  | lineFeed
  /-- A skin tone. -/
  | emojiModifier
  /-- One regional indicator, or several. -/
  | regional | severalRegional
  /-- An emoji in colour. -/
  | emoji
  /-- A joiner before an emoji, and before it a keycap, regional indicators, or an emoji tag of
  digits and letters read backwards. -/
  | joined | joinedKeycap | joinedRegional | joinedEvenRegional | joinedOddRegional
  | joinedTagEnd | joinedTagDigits (count : Nat) | joinedTagLetters (count : Nat)
  /-- Arabic alef. -/
  | alef
  /-- Hebrew lamed, Buginese ya, a Tifinagh consonant, Old Turkic i, perhaps with a joiner before
  them. -/
  | lamed (joiner : Bool) | buginese (joiner : Bool) | tifinagh (joiner : Bool)
  | orkhon (joiner : Bool)
  /-- Buginese vowel i before a joined ya. -/
  | bugineseVowel
  /-- Tifinagh joiner before a consonant. -/
  | tifinaghJoiner
  /-- Second letter of a Lisu tone pair. -/
  | lisuTone
  /-- Khmer letter that can be written below another. -/
  | khmerLetter
  /-- Kirat Rai vowel signs e and ai. -/
  | kiratE | kiratAi
  deriving DecidableEq, Repr

/-- What follows a character: its beginning, and the variation selectors still to be applied. -/
structure Context where
  lead : Lead
  /-- A selector for emoji presentation waits for its base. -/
  emojiSelector : Bool := false
  /-- A selector for text presentation waits for its base. -/
  textSelector : Bool := false
  /-- A selector for the fullwidth form of a quotation mark waits for its base. -/
  wideSelector : Bool := false
  deriving DecidableEq, Repr

/-- Context without selectors. -/
def Context.of (lead : Lead) : Context := { lead }

/-- Context that nothing can join. -/
def Context.plain : Context := .of .plain

namespace Lead

/-- Ligatures of a script that outlast a selector. -/
def isScript : Lead → Bool
  | alef | lamed _ | buginese _ | tifinagh _ | orkhon _ | bugineseVowel | tifinaghJoiner | lisuTone
  | khmerLetter => true
  | _ => false

/-- Whether ignorable marks leave the ligature intact. -/
def seesThroughMarks : Lead → Bool
  | alef => false
  | l => l.isScript

/-- Beginning after a joiner was put before it. -/
def withJoiner : Lead → Lead
  | lamed _ => lamed true
  | buginese _ => buginese true
  | tifinagh _ => tifinagh true
  | orkhon _ => orkhon true
  | l => l

end Lead

/-- Marks that never interrupt a ligature. -/
def isIgnorableMark (n : Nat) : Bool :=
  n == 0x034F || (0x17B4 ≤ n && n ≤ 0x17B5) || (0x180B ≤ n && n ≤ 0x180D) || n == 0x180F ||
    n == 0x200D || (0xFE00 ≤ n && n ≤ 0xFE0F) || (0xE0100 ≤ n && n ≤ 0xE01EF)

/-- Tifinagh consonants that join. -/
def isTifinaghConsonant (n : Nat) : Bool := (0x2D31 ≤ n && n ≤ 0x2D65) || n == 0x2D6F

/-- Khmer letters that have a form below another letter. -/
def isKhmerLetter (n : Nat) : Bool :=
  (0x1780 ≤ n && n ≤ 0x1782) || (0x1784 ≤ n && n ≤ 0x1787) || (0x1789 ≤ n && n ≤ 0x178C) ||
    (0x178E ≤ n && n ≤ 0x1793) || (0x1795 ≤ n && n ≤ 0x1798) || (0x179B ≤ n && n ≤ 0x179D) ||
    n == 0x17A0 || n == 0x17A2 || n == 0x17A7 || (0x17AB ≤ n && n ≤ 0x17AC) || n == 0x17AF

/-- Regional indicators. -/
def isRegional (n : Nat) : Bool := 0x1F1E6 ≤ n && n ≤ 0x1F1FF

/-- Skin tones. -/
def isEmojiModifier (n : Nat) : Bool := 0x1F3FB ≤ n && n ≤ 0x1F3FF

/-- Quotation marks that have a fullwidth form. -/
def isQuotationMark (n : Nat) : Bool := n == 0x2018 || n == 0x2019 || n == 0x201C || n == 0x201D

/-- Width of a character that stands alone. -/
def charWidth (n : Nat) : Nat :=
  if n ≤ 0xA0 then 1
  else if n == 0x115F || n == 0x17A4 then 2
  else if n == 0x17D8 then 3
  else if zeroWidth.contains n then 0
  else if eastAsianWide.contains n then 2
  else 1

/-- Context that a character leaves when it joins nothing after it. -/
def leadOf (n : Nat) : Context :=
  if n == 0xFE0E then { lead := .plain, textSelector := true }
  else if n == 0xFE0F then { lead := .plain, emojiSelector := true }
  else if n == 0xFE01 then { lead := .plain, wideSelector := true }
  else .of <|
    if isEmojiModifier n then .emojiModifier
    else if isRegional n then .regional
    else if n == 0x05DC then .lamed false
    else if n == 0x1A10 then .buginese false
    else if isTifinaghConsonant n then .tifinagh false
    else if n == 0xA4FC || n == 0xA4FD then .lisuTone
    else if n == 0x10C03 then .orkhon false
    else if isKhmerLetter n then .khmerLetter
    else if n == 0x16D67 then .kiratE
    else if n == 0x16D68 then .kiratAi
    else if joiningAlef.contains n then .alef
    else if emojiPresentation.contains n then .emoji
    else .plain

/-- Marks without width that leave Arabic letters joined. -/
def isTransparentMark (n : Nat) : Bool := charWidth n == 0 && joiningTransparent.contains n

/-- Context after an emoji selector. -/
def Context.selectEmoji (k : Context) : Context :=
  if k.lead.isScript then { k with emojiSelector := true }
  else if (k.lead = .joined ∨ k.lead = .joinedKeycap) ∧ !k.emojiSelector then
    { k with emojiSelector := true }
  else { lead := .plain, emojiSelector := true }

/-- Context after a text selector. -/
def Context.selectText (k : Context) : Context :=
  if k.lead.isScript then { k with textSelector := true }
  else { lead := .plain, textSelector := true }

/-- Context after a selector for a fullwidth form. -/
def Context.selectWide (k : Context) : Context :=
  if k.lead.isScript then { k with wideSelector := true }
  else { lead := .plain, wideSelector := true }

/-- Context once its emoji selector has met a character it does not apply to. -/
def Context.dropEmojiSelector (k : Context) : Context :=
  if k.lead.isScript then { k with emojiSelector := false } else .plain

/-- Context once its text selector has met a character it does not apply to. -/
def Context.dropTextSelector (k : Context) : Context :=
  if k.lead.isScript then { k with textSelector := false } else .plain

/-- Context once its selector for a fullwidth form has met a character it does not apply to. -/
def Context.dropWideSelector (k : Context) : Context :=
  if k.lead.isScript then { k with wideSelector := false } else .plain

/-- Width and context of a character that joins a beginning after it, if it does. -/
def join? (n : Nat) (next : Lead) : Option (Int × Lead) :=
  let isTagLetter := 0xE0061 ≤ n && n ≤ 0xE007A
  let isTagDigit := 0xE0030 ≤ n && n ≤ 0xE0039
  let isFlag := n == 0x1F3F4
  match next with
  | .alef =>
      if joiningLam.contains n then some (0, .plain)
      else if isTransparentMark n then some (0, .alef)
      else none
  | .lamed true => if n == 0x05D0 then some (0, .plain) else none
  | .khmerLetter => if n == 0x17D2 then some (-1, .plain) else none
  | .buginese true => if n == 0x1A17 then some (0, .bugineseVowel) else none
  | .bugineseVowel => if n == 0x1A15 then some (0, .plain) else none
  | .tifinagh joiner =>
      if n == 0x2D7F then some (1, .tifinaghJoiner)
      else if joiner && isTifinaghConsonant n then some (0, .plain)
      else none
  | .tifinaghJoiner => if isTifinaghConsonant n then some (-1, .plain) else none
  | .lisuTone => if 0xA4F8 ≤ n && n ≤ 0xA4FB then some (0, .plain) else none
  | .orkhon true => if n == 0x10C32 then some (0, .plain) else none
  | .emojiModifier =>
      if emojiModifierBase.contains n then some (0, .emoji)
      else if n == 0x200D then some (0, .joined)
      else none
  | .regional => if isRegional n then some (1, .severalRegional) else none
  | .severalRegional =>
      if isRegional n then some (1, .severalRegional)
      else if n == 0x200D then some (0, .joined)
      else none
  | .emoji => if n == 0x200D then some (0, .joined) else none
  | .joined =>
      if n == 0x20E3 then some (0, .joinedKeycap)
      else if isRegional n then some (1, .joinedRegional)
      else if isEmojiModifier n then some (0, .emojiModifier)
      else if n == 0xE007F then some (0, .joinedTagEnd)
      else if emojiPresentation.contains n then some (0, .emoji)
      else none
  | .joinedRegional => if isRegional n then some (-1, .joinedEvenRegional) else none
  | .joinedOddRegional =>
      if isRegional n then some (-1, .joinedEvenRegional)
      else if n == 0x200D then some (0, .joined)
      else none
  | .joinedEvenRegional =>
      if isRegional n then some (3, .joinedOddRegional)
      else if n == 0x200D then some (0, .joined)
      else none
  | .joinedTagEnd =>
      if isTagLetter then some (0, .joinedTagLetters 1)
      else if isTagDigit then some (0, .joinedTagDigits 1)
      else none
  | .joinedTagLetters count =>
      if isTagLetter && count < 6 then some (0, .joinedTagLetters (count + 1))
      else if isTagDigit && count < 5 then some (0, .joinedTagDigits 1)
      else if isFlag && 3 ≤ count then some (0, .emoji)
      else none
  | .joinedTagDigits count =>
      if isTagDigit && count < 3 then some (0, .joinedTagDigits (count + 1))
      else if isFlag && count == 3 then some (0, .emoji)
      else none
  | .kiratE =>
      if n == 0x16D63 || n == 0x16D69 then some (0, .plain)
      else if n == 0x16D67 then some (0, .kiratAi)
      else if n == 0x16D68 then some (1, .kiratE)
      else none
  | .kiratAi => if n == 0x16D63 then some (0, .plain) else none
  | _ => none

/-- Width that a character beyond the first two Latin blocks adds before a context, and the context
it leaves. -/
def stepAbove (n : Nat) (next : Context) : Int × Context :=
  if n == 0xFE0F then (0, next.selectEmoji)
  else if n == 0xFE0E then (0, next.selectText)
  else if n == 0xFE01 then (0, next.selectWide)
  else if next.textSelector && textVariationBase.contains n then (1, .plain)
  else if next.wideSelector && isQuotationMark n then (2, .plain)
  else
    let next := if next.textSelector then next.dropTextSelector else next
    let next := if next.wideSelector then next.dropWideSelector else next
    if next.lead.seesThroughMarks && n == 0x200D then (0, .of next.lead.withJoiner)
    else if next.lead.seesThroughMarks && isIgnorableMark n then (0, next)
    else
      match join? n next.lead with
      | some (width, lead) => (width, .of lead)
      | none => (charWidth n, leadOf n)

/-- Width that a character adds before a context, and the context it leaves. -/
def step (n : Nat) (next : Context) : Int × Context :=
  if next.emojiSelector && emojiVariationBase.contains n then
    (if next.lead = .joined ∨ next.lead = .joinedKeycap then 0 else 2, .of .emoji)
  else
    let next := if next.emojiSelector then next.dropEmojiSelector else next
    if n == 0x0A then (1, .of .lineFeed)
    else if n == 0x0D && next == .of .lineFeed then (0, .plain)
    else if n ≤ 0xA0 then (1, .plain)
    else stepAbove n next

/-- Width of a text and its context, read from the end. -/
def scan (text : List Char) : Int × Context :=
  text.foldr
    (fun c after ↦
      let (width, context) := step c.toNat after.2
      (after.1 + width, context))
    (0, .plain)

/-- Number of cells that a text fills. -/
def width (text : List Char) : Nat := (scan text).1.toNat

end EditBox.Cell
