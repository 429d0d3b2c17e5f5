import ClassTypings.Unicode.Age
import ClassTypings.Unicode.Boundary
import ClassTypings.Unicode.Script
/-!
# Names of properties

A set of characters is named by a property that its characters have, by a general category, by a
script, or by a property and its value. In names the case of letters does not matter, nor do blanks,
dashes, underscores and a leading `is`.
-/
namespace ClassTypings.Unicode

/-- What can be asked about a property. -/
inductive PropertyKind where
  /-- A character has it or not. -/
  | plain (table : Table)
  /-- A character has one of some values. -/
  | valued (values : List NamedTable)
  /-- It has a name, and no character is told by it. -/
  | unlisted

/-- A property and its names. -/
structure Property where
  names : List String
  kind : PropertyKind

/-- The properties that a character has or has not. -/
def plainProperties : List NamedTable := [
  ⟨["ASCII_Hex_Digit", "AHex"], asciiHexDigit⟩,
  ⟨["Alphabetic", "Alpha"], alphabetic⟩,
  ⟨["Bidi_Control", "Bidi_C"], bidiControl⟩,
  ⟨["Case_Ignorable", "CI"], caseIgnorable⟩,
  ⟨["Cased"], cased⟩,
  ⟨["Changes_When_Casefolded", "CWCF"], changesWhenCasefolded⟩,
  ⟨["Changes_When_Casemapped", "CWCM"], changesWhenCasemapped⟩,
  ⟨["Changes_When_Lowercased", "CWL"], changesWhenLowercased⟩,
  ⟨["Changes_When_Titlecased", "CWT"], changesWhenTitlecased⟩,
  ⟨["Changes_When_Uppercased", "CWU"], changesWhenUppercased⟩,
  ⟨["Dash"], dash⟩,
  ⟨["Default_Ignorable_Code_Point", "DI"], defaultIgnorableCodePoint⟩,
  ⟨["Deprecated", "Dep"], deprecated⟩,
  ⟨["Diacritic", "Dia"], diacritic⟩,
  ⟨["Emoji"], emoji⟩,
  ⟨["Emoji_Component", "EComp"], emojiComponent⟩,
  ⟨["Emoji_Modifier", "EMod"], emojiModifier⟩,
  ⟨["Emoji_Modifier_Base", "EBase"], emojiModifierBase⟩,
  ⟨["Emoji_Presentation", "EPres"], emojiPresentation⟩,
  ⟨["Extended_Pictographic", "ExtPict"], extendedPictographic⟩,
  ⟨["Extender", "Ext"], extender⟩,
  ⟨["Grapheme_Base", "Gr_Base"], graphemeBase⟩,
  ⟨["Grapheme_Extend", "Gr_Ext"], graphemeExtend⟩,
  ⟨["Grapheme_Link", "Gr_Link"], graphemeLink⟩,
  ⟨["Hex_Digit", "Hex"], hexDigit⟩,
  ⟨["Hyphen"], hyphen⟩,
  ⟨["IDS_Binary_Operator", "IDSB"], idsBinaryOperator⟩,
  ⟨["IDS_Trinary_Operator", "IDST"], idsTrinaryOperator⟩,
  ⟨["IDS_Unary_Operator", "IDSU"], idsUnaryOperator⟩,
  ⟨["ID_Compat_Math_Continue"], idCompatMathContinue⟩,
  ⟨["ID_Compat_Math_Start"], idCompatMathStart⟩,
  ⟨["ID_Continue", "IDC"], idContinue⟩,
  ⟨["ID_Start", "IDS"], idStart⟩,
  ⟨["Ideographic", "Ideo"], ideographic⟩,
  ⟨["Join_Control", "Join_C"], joinControl⟩,
  ⟨["Logical_Order_Exception", "LOE"], logicalOrderException⟩,
  ⟨["Lowercase", "Lower"], lowercase⟩,
  ⟨["Math"], math⟩,
  ⟨["Modifier_Combining_Mark", "MCM"], modifierCombiningMark⟩,
  ⟨["Noncharacter_Code_Point", "NChar"], noncharacterCodePoint⟩,
  ⟨["Other_Alphabetic", "OAlpha"], otherAlphabetic⟩,
  ⟨["Other_Default_Ignorable_Code_Point", "ODI"], otherDefaultIgnorableCodePoint⟩,
  ⟨["Other_Grapheme_Extend", "OGr_Ext"], otherGraphemeExtend⟩,
  ⟨["Other_ID_Continue", "OIDC"], otherIdContinue⟩,
  ⟨["Other_ID_Start", "OIDS"], otherIdStart⟩,
  ⟨["Other_Lowercase", "OLower"], otherLowercase⟩,
  ⟨["Other_Math", "OMath"], otherMath⟩,
  ⟨["Other_Uppercase", "OUpper"], otherUppercase⟩,
  ⟨["Pattern_Syntax", "Pat_Syn"], patternSyntax⟩,
  ⟨["Pattern_White_Space", "Pat_WS"], patternWhiteSpace⟩,
  ⟨["Prepended_Concatenation_Mark", "PCM"], prependedConcatenationMark⟩,
  ⟨["Quotation_Mark", "QMark"], quotationMark⟩,
  ⟨["Radical"], radical⟩,
  ⟨["Regional_Indicator", "RI"], regionalIndicator⟩,
  ⟨["Sentence_Terminal", "STerm"], sentenceTerminal⟩,
  ⟨["Soft_Dotted", "SD"], softDotted⟩,
  ⟨["Terminal_Punctuation", "Term"], terminalPunctuation⟩,
  ⟨["Unified_Ideograph", "UIdeo"], unifiedIdeograph⟩,
  ⟨["Uppercase", "Upper"], uppercase⟩,
  ⟨["Variation_Selector", "VS"], variationSelector⟩,
  ⟨["White_Space", "WSpace", "space"], whiteSpace⟩,
  ⟨["XID_Continue", "XIDC"], xidContinue⟩,
  ⟨["XID_Start", "XIDS"], xidStart⟩]

/-- The properties with values. -/
def valuedProperties : List Property := [
  ⟨["Age"], .valued ages⟩,
  ⟨["General_Category", "gc"], .valued categories⟩,
  ⟨["Grapheme_Cluster_Break", "GCB"], .valued clusterBreaks⟩,
  ⟨["Script", "sc"], .valued scripts⟩,
  ⟨["Script_Extensions", "scx"], .valued scriptExtensions⟩,
  ⟨["Sentence_Break", "SB"], .valued sentenceBreaks⟩,
  ⟨["Word_Break", "WB"], .valued wordBreaks⟩]

/-- The names of the properties by which no character is told. -/
def unlistedProperties : List (List String) := [
  ["Bidi_Class", "bc"], ["Bidi_Mirrored", "Bidi_M"], ["Bidi_Mirroring_Glyph", "bmg"],
  ["Bidi_Paired_Bracket", "bpb"], ["Bidi_Paired_Bracket_Type", "bpt"], ["Block", "blk"],
  ["Canonical_Combining_Class", "ccc"], ["Case_Folding", "cf"],
  ["Changes_When_NFKC_Casefolded", "CWKCF"], ["Composition_Exclusion", "CE"],
  ["Decomposition_Mapping", "dm"], ["Decomposition_Type", "dt"], ["East_Asian_Width", "ea"],
  ["Equivalent_Unified_Ideograph", "EqUIdeo"], ["Expands_On_NFC", "XO_NFC"],
  ["Expands_On_NFD", "XO_NFD"], ["Expands_On_NFKC", "XO_NFKC"], ["Expands_On_NFKD", "XO_NFKD"],
  ["FC_NFKC_Closure", "FC_NFKC"], ["Full_Composition_Exclusion", "Comp_Ex"],
  ["Hangul_Syllable_Type", "hst"], ["ISO_Comment", "isc"], ["Indic_Conjunct_Break", "InCB"],
  ["Indic_Positional_Category", "InPC"], ["Indic_Syllabic_Category", "InSC"],
  ["Jamo_Short_Name", "JSN"], ["Joining_Group", "jg"], ["Joining_Type", "jt"],
  ["Line_Break", "lb"], ["Lowercase_Mapping", "lc"], ["NFC_Quick_Check", "NFC_QC"],
  ["NFD_Quick_Check", "NFD_QC"], ["NFKC_Casefold", "NFKC_CF"], ["NFKC_Quick_Check", "NFKC_QC"],
  ["NFKC_Simple_Casefold", "NFKC_SCF"], ["NFKD_Quick_Check", "NFKD_QC"], ["Name", "na"],
  ["Name_Alias"], ["Numeric_Type", "nt"], ["Numeric_Value", "nv"],
  ["Simple_Case_Folding", "scf", "sfc"], ["Simple_Lowercase_Mapping", "slc"],
  ["Simple_Titlecase_Mapping", "stc"], ["Simple_Uppercase_Mapping", "suc"],
  ["Titlecase_Mapping", "tc"], ["Unicode_1_Name", "na1"],
  ["Unicode_Radical_Stroke", "kRSUnicode", "cjkRSUnicode", "URS"], ["Uppercase_Mapping", "uc"],
  ["Vertical_Orientation", "vo"], ["kAccountingNumeric", "cjkAccountingNumeric"],
  ["kCompatibilityVariant", "cjkCompatibilityVariant"], ["kEH_Cat"], ["kEH_Core"], ["kEH_Desc"],
  ["kEH_HG"], ["kEH_IFAO"], ["kEH_JSesh"], ["kEH_NoMirror"], ["kEH_NoRotate"],
  ["kIICore", "cjkIICore"], ["kIRG_GSource", "cjkIRG_GSource"],
  ["kIRG_HSource", "cjkIRG_HSource"], ["kIRG_JSource", "cjkIRG_JSource"],
  ["kIRG_KPSource", "cjkIRG_KPSource"], ["kIRG_KSource", "cjkIRG_KSource"],
  ["kIRG_MSource", "cjkIRG_MSource"], ["kIRG_SSource", "cjkIRG_SSource"],
  ["kIRG_TSource", "cjkIRG_TSource"], ["kIRG_UKSource", "cjkIRG_UKSource"],
  ["kIRG_USource", "cjkIRG_USource"], ["kIRG_VSource", "cjkIRG_VSource"],
  ["kMandarin", "cjkMandarin"], ["kOtherNumeric", "cjkOtherNumeric"],
  ["kPrimaryNumeric", "cjkPrimaryNumeric"], ["kTotalStrokes", "cjkTotalStrokes"],
  ["kUnihanCore2020", "cjkUnihanCore2020"]]

def properties : List Property :=
  (plainProperties.map fun p => ⟨p.names, p.table.elim .unlisted .plain⟩) ++ valuedProperties ++
    unlistedProperties.map fun names => ⟨names, .unlisted⟩

/-- The part of a name that counts. -/
def essence (name : Text) : Text :=
  let drop (t : Text) :=
    Text.asciiLower (t.filter fun c => c.toNat < 128 && !(c == ' ' || c == '_' || c == '-'))
  if Text.asciiLower (name.take 2) = "is".toList then
    let rest := drop (name.drop 2)
    if rest = ['c'] then "isc".toList else rest
  else drop name

def named (names : List String) (name : Text) : Bool :=
  names.any fun other => essence other.toList = essence name

def NamedTable.find? (tables : List NamedTable) (name : Text) : Option NamedTable :=
  tables.find? fun t => named t.names name

def Property.find? (name : Text) : Option Property := properties.find? fun p => named p.names name

/-- What a pattern says to name a set of characters. -/
inductive Query where
  | named (name : Text)
  | valued (property value : Text)
  deriving DecidableEq, Repr

/-- Why a query has no answer. -/
inductive QueryFlaw where
  | unknownProperty
  | unknownValue
  deriving DecidableEq, Repr

def tableOf : Option NamedTable → Except QueryFlaw Table
  | some ⟨_, some table⟩ => .ok table
  | _ => .error .unknownValue

/-- The short names that mean a general category and not the property of the same name. -/
def categoryNames : List Text := ["cf".toList, "sc".toList, "lc".toList]

/-- The set of characters that a query is about. -/
def Query.table : Query → Except QueryFlaw Table
  | .named name =>
    match if categoryNames.contains (essence name) then none else Property.find? name with
    | some ⟨_, .plain table⟩ => .ok table
    | some _ => .error .unknownProperty
    | none =>
      match (NamedTable.find? categories name).or (NamedTable.find? scripts name) with
      | some found => tableOf (some found)
      | none => .error .unknownProperty
  | .valued property value =>
    match Property.find? property with
    | some ⟨_, .valued values⟩ => tableOf (NamedTable.find? values value)
    | some _ => .error .unknownValue
    | none => .error .unknownProperty

end ClassTypings.Unicode
