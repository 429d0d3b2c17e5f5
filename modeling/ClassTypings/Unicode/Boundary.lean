import ClassTypings.Unicode.Property
/-!
# Boundaries in texts

What a character is where a text is split into the characters of its readers, into words and into
sentences, by Unicode 16.
-/
namespace ClassTypings.Unicode

/-- Characters that the next one joins. -/
def clusterPrepend : Table := .listed [
    "600-605 6dd 70f 890-891 8e2 d4e 110bd 110cd 111c2-111c3 113d1 1193f 11941 11a3a 11a84-11a89",
    "11d46 11f02"]

/-- Characters that join the one before. -/
def clusterExtend : Table :=
  graphemeExtend ∪ emojiModifier

/-- Marks that take room and join the character before. -/
def clusterSpacingMark : Table :=
  (spacingMark \ clusterExtend) \ .listed [
    "102b-102c 1038 1062-1064 1067-106d 1083 1087-108c 108f 109a-109c 1a61 1a63-1a64 aa7b aa7d",
    "11720-11721"] ∪ .listed ["e33 eb3"]

/-- Characters that join no other. -/
def clusterControl : Table :=
  ((control ∪ format ∪ lineSeparator ∪ paragraphSeparator) \ (clusterPrepend ∪ clusterExtend)) \
  .listed ["a d 200d"] ∪ .listed ["2065 fff0-fff8 e0000 e0002-e001f e0080-e00ff e01f0-e0fff"]

/-- Consonants that begin a syllable of Hangul. -/
def leadingConsonant : Table := .listed ["1100-115f a960-a97c"]

def syllableVowel : Table := .listed ["1160-11a7 d7b0-d7c6 16d63 16d67-16d6a"]

def trailingConsonant : Table := .listed ["11a8-11ff d7cb-d7fb"]

/-- Syllables of Hangul that end with the vowel. -/
def openSyllable : Table := .listed ["ac00-d788/1c"]

/-- Syllables of Hangul that end with a consonant. -/
def closedSyllable : Table := .listed ["ac00-d7a3"] \ openSyllable

def zeroWidthJoiner : Table := .listed ["200d"]

def carriageReturn : Table := .listed ["d"]

def lineFeed : Table := .listed ["a"]

def wordExtend : Table :=
  graphemeExtend ∪ spacingMark ∪ emojiModifier

def wordFormat : Table :=
  (format \ wordExtend) \ .listed ["600-605 6dd 70f 890-891 8e2 200b 200d 110bd 110cd"]

def wordHebrew : Table := .listed [
    "5d0-5ea 5ef-5f2 fb1d fb1f-fb28 fb2a-fb36 fb38-fb3c fb3e fb40-fb41 fb43-fb44 fb46-fb4f"]

def wordKatakana : Table := .listed [
    "3031-3035 309b-309c 30a0-30fa 30fc-30ff 31f0-31ff 32d0-32fe 3300-3357 ff66-ff9d 1aff0-1aff3",
    "1aff5-1affb 1affd-1affe 1b000 1b120-1b122 1b155 1b164-1b167"]

def wordNumeric : Table :=
  decimalNumber ∪ .listed ["600-605 66b 6dd 890-891 8e2 110bd 110cd"]

def wordLetter : Table :=
  (alphabetic \ (ideographic ∪ wordKatakana ∪ wordExtend ∪ wordHebrew)) \ .listed [
    "e01-e30 e32-e33 e40-e46 e81-e82 e84 e86-e8a e8c-ea3 ea5 ea7-eb0 eb2-eb3 ebd ec0-ec4 ec6",
    "edc-edf 1000-102a 103f 1050-1055 105a-105d 1061 1065-1066 106e-1070 1075-1081 108e",
    "1780-17b3 17d7 17dc 1950-196d 1970-1974 1980-19ab 19b0-19c9 1a20-1a54 1aa7 3041-3096",
    "309d-309f a9e0-a9e4 a9e6-a9ef a9fa-a9fe aa60-aa76 aa7a aa7e-aaaf aab1 aab5-aab6 aab9-aabd",
    "aac0 aac2 aadb-aadd 11700-1171a 11740-11746 1b001-1b11f 1b132 1b150-1b152"] ∪ .listed [
    "2c2-2c5 2d2-2d7 2de-2df 2e5-2eb 2ed 2ef-2ff 55a-55c 55e 58a 5f3 70f a708-a716 a720-a721",
    "a789-a78a ab5b"]

def wordConnector : Table :=
  connectorPunctuation ∪ .listed ["202f"]

def wordMiddle : Table := .listed ["3a b7 387 55f 5f4 2027 fe13 fe55 ff1a"]

def numberMiddle : Table := .listed [
    "2c 3b 37e 589 60c-60d 66c 7f8 2044 fe10 fe14 fe50 fe54 ff0c ff1b"]

/-- Punctuation between letters or digits. -/
def wordNumberMiddle : Table := .listed ["2e 2018-2019 2024 fe52 ff07 ff0e"]

def singleQuote : Table := .listed ["27"]

def doubleQuote : Table := .listed ["22"]

/-- Ends of lines that are neither a carriage return nor a line feed. -/
def newline : Table := .listed ["b-c 85 2028-2029"]

def wordSpace : Table := .listed ["20 1680 2000-2006 2008-200a 205f 3000"]

def sentenceExtend : Table :=
  graphemeExtend ∪ spacingMark ∪ .listed ["200d"]

def sentenceFormat : Table :=
  (format \ sentenceExtend) \ .listed ["600-605 6dd 890-891 8e2 110bd 110cd"]

def sentenceSeparator : Table := .listed ["85 2028-2029"]

def sentenceSpace : Table :=
  whiteSpace \ (sentenceSeparator ∪ carriageReturn ∪ lineFeed)

def sentenceNumeric : Table :=
  wordNumeric ∪ .listed ["66c"]

def sentenceLower : Table :=
  (lowercase \ graphemeExtend) \ .listed ["10d0-10fa 10fd-10ff"]

def sentenceUpper : Table :=
  (titlecaseLetter ∪ uppercase) \ .listed ["1c90-1cba 1cbd-1cbf"]

def sentenceLetter : Table :=
  alphabetic \ (sentenceLower ∪ sentenceUpper ∪ sentenceExtend) ∪ .listed ["5f3"]

/-- Dots, which do not always end a sentence. -/
def sentenceDot : Table := .listed ["2e 2024 fe52 ff0e"]

def sentenceEnd : Table :=
  sentenceTerminal \ sentenceDot

def sentenceClose : Table :=
  openPunctuation ∪ closePunctuation ∪ initialPunctuation ∪ finalPunctuation ∪
  .listed ["22 27 275b-2760 2e00-2e01 2e06-2e08 2e0b 1f676-1f678"]

def sentenceContinue : Table := .listed [
    "2c-2d 3a-3b 37e 55d 60c-60d 7f8 1802 1808 2013-2014 3001 fe10-fe11 fe13-fe14 fe31-fe32",
    "fe50-fe51 fe54-fe55 fe58 fe63 ff0c-ff0d ff1a-ff1b ff64"]

/-- What characters are to the characters of readers. -/
def clusterBreaks : List NamedTable := [
  ⟨["CN", "Control"], clusterControl⟩,
  ⟨["CR"], carriageReturn⟩,
  ⟨["EX", "Extend"], clusterExtend⟩,
  ⟨["L"], leadingConsonant⟩,
  ⟨["LF"], lineFeed⟩,
  ⟨["LV"], openSyllable⟩,
  ⟨["LVT"], closedSyllable⟩,
  ⟨["PP", "Prepend"], clusterPrepend⟩,
  ⟨["RI", "Regional_Indicator"], regionalIndicator⟩,
  ⟨["SM", "SpacingMark"], clusterSpacingMark⟩,
  ⟨["T"], trailingConsonant⟩,
  ⟨["V"], syllableVowel⟩,
  ⟨["ZWJ"], zeroWidthJoiner⟩,
  ⟨["EB", "E_Base"], none⟩,
  ⟨["EBG", "E_Base_GAZ"], none⟩,
  ⟨["EM", "E_Modifier"], none⟩,
  ⟨["GAZ", "Glue_After_Zwj"], none⟩,
  ⟨["XX", "Other"], none⟩]

/-- What characters are to words. -/
def wordBreaks : List NamedTable := [
  ⟨["CR"], carriageReturn⟩,
  ⟨["DQ", "Double_Quote"], doubleQuote⟩,
  ⟨["EX", "ExtendNumLet"], wordConnector⟩,
  ⟨["Extend"], wordExtend⟩,
  ⟨["FO", "Format"], wordFormat⟩,
  ⟨["HL", "Hebrew_Letter"], wordHebrew⟩,
  ⟨["KA", "Katakana"], wordKatakana⟩,
  ⟨["LE", "ALetter"], wordLetter⟩,
  ⟨["LF"], lineFeed⟩,
  ⟨["MB", "MidNumLet"], wordNumberMiddle⟩,
  ⟨["ML", "MidLetter"], wordMiddle⟩,
  ⟨["MN", "MidNum"], numberMiddle⟩,
  ⟨["NL", "Newline"], newline⟩,
  ⟨["NU", "Numeric"], wordNumeric⟩,
  ⟨["RI", "Regional_Indicator"], regionalIndicator⟩,
  ⟨["SQ", "Single_Quote"], singleQuote⟩,
  ⟨["WSegSpace"], wordSpace⟩,
  ⟨["ZWJ"], zeroWidthJoiner⟩,
  ⟨["EB", "E_Base"], none⟩,
  ⟨["EBG", "E_Base_GAZ"], none⟩,
  ⟨["EM", "E_Modifier"], none⟩,
  ⟨["GAZ", "Glue_After_Zwj"], none⟩,
  ⟨["XX", "Other"], none⟩]

/-- What characters are to sentences. -/
def sentenceBreaks : List NamedTable := [
  ⟨["AT", "ATerm"], sentenceDot⟩,
  ⟨["CL", "Close"], sentenceClose⟩,
  ⟨["CR"], carriageReturn⟩,
  ⟨["EX", "Extend"], sentenceExtend⟩,
  ⟨["FO", "Format"], sentenceFormat⟩,
  ⟨["LE", "OLetter"], sentenceLetter⟩,
  ⟨["LF"], lineFeed⟩,
  ⟨["LO", "Lower"], sentenceLower⟩,
  ⟨["NU", "Numeric"], sentenceNumeric⟩,
  ⟨["SC", "SContinue"], sentenceContinue⟩,
  ⟨["SE", "Sep"], sentenceSeparator⟩,
  ⟨["SP", "Sp"], sentenceSpace⟩,
  ⟨["ST", "STerm"], sentenceEnd⟩,
  ⟨["UP", "Upper"], sentenceUpper⟩,
  ⟨["XX", "Other"], none⟩]

end ClassTypings.Unicode
