import Triage.Unicode.Category
import Triage.Unicode.Break
import Triage.Unicode.Folding
import Triage.Unicode.LowerCase
import Triage.Unicode.PropertyTable

/-!
# Binary properties

Properties that a character has or lacks. Most follow from categories, case mappings and a few
exceptions.
-/

namespace Triage.Unicode

def lowercase : CharSet := inCategory ["Ll"] ∪ otherLowercase

def uppercase : CharSet := inCategory ["Lu"] ∪ otherUppercase

def cased : CharSet := .unions [lowercase, uppercase, inCategory ["Lt"]]

def caseIgnorable : CharSet :=
  inCategory ["Mn", "Me", "Cf", "Lm", "Sk"] ∪ wordBreaks.select ["ML", "MB", "SQ"].contains

def alphabetic : CharSet := inCategory ["L", "Nl"] ∪ otherAlphabetic

def math : CharSet := inCategory ["Sm"] ∪ otherMath

def idStart : CharSet := inCategory ["L", "Nl"] ∪ otherIdStart

def idContinue : CharSet := .unions [idStart, inCategory ["Mn", "Mc", "Nd", "Pc"], otherIdContinue]

/-- The characters that normalization may take out of identifiers. -/
def openToNormalization : CharSet :=
  .ofCodes
    [(0x37a, 0x37a), (0x309b, 0x309c), (0xfc5e, 0xfc63), (0xfdfa, 0xfdfb), (0xfe70, 0xfe70),
     (0xfe72, 0xfe72), (0xfe74, 0xfe74), (0xfe76, 0xfe76), (0xfe78, 0xfe78), (0xfe7a, 0xfe7a),
     (0xfe7c, 0xfe7c), (0xfe7e, 0xfe7e)]

def xidContinue : CharSet := idContinue \ openToNormalization

def xidStart : CharSet :=
  (idStart \ openToNormalization) \ .ofCodes [(0xe33, 0xe33), (0xeb3, 0xeb3), (0xff9e, 0xff9f)]

def graphemeExtend : CharSet := inCategory ["Me", "Mn"] ∪ otherGraphemeExtend

def graphemeBase : CharSet :=
  (inCategory ["Cc", "Cf", "Co", "Cn", "Zl", "Zp"] ∪ graphemeExtend).compl

def defaultIgnorable : CharSet :=
  .unions [otherDefaultIgnorable, variationSelector,
    (inCategory ["Cf"] \ prependedConcatenationMark) \
      .ofCodes [(0xfff9, 0xfffb), (0x13430, 0x1343f)]]

def changesWhenLowercased : CharSet := .ofCodeList (0x130 :: lowerRuns.flatMap CaseRun.sources)

/-- The characters with an upper case that are nobody's lower case, or whose upper case has several
characters. -/
def otherUppercased : CharSet :=
  .ofCodes
    [(0xb5, 0xb5), (0x131, 0x131), (0x149, 0x149), (0x17f, 0x17f), (0x1c5, 0x1c5), (0x1c8, 0x1c8),
     (0x1cb, 0x1cb), (0x1f0, 0x1f0), (0x1f2, 0x1f2), (0x345, 0x345), (0x390, 0x390),
     (0x3b0, 0x3b0), (0x3c2, 0x3c2), (0x3d0, 0x3d1), (0x3d5, 0x3d6), (0x3f0, 0x3f1),
     (0x3f5, 0x3f5), (0x587, 0x587), (0x1c80, 0x1c88), (0x1e96, 0x1e9b), (0x1f50, 0x1f50),
     (0x1f52, 0x1f52), (0x1f54, 0x1f54), (0x1f56, 0x1f56), (0x1f88, 0x1f8f), (0x1f98, 0x1f9f),
     (0x1fa8, 0x1faf), (0x1fb2, 0x1fb2), (0x1fb4, 0x1fb4), (0x1fb6, 0x1fb7), (0x1fbc, 0x1fbc),
     (0x1fbe, 0x1fbe), (0x1fc2, 0x1fc2), (0x1fc4, 0x1fc4), (0x1fc6, 0x1fc7), (0x1fcc, 0x1fcc),
     (0x1fd2, 0x1fd3), (0x1fd6, 0x1fd7), (0x1fe2, 0x1fe4), (0x1fe6, 0x1fe7), (0x1ff2, 0x1ff2),
     (0x1ff4, 0x1ff4), (0x1ff6, 0x1ff7), (0x1ffc, 0x1ffc), (0xfb00, 0xfb06), (0xfb13, 0xfb17)]

def changesWhenUppercased : CharSet :=
  .ofCodeList (lowerRuns.flatMap fun run => run.sources.map run.map) ∪ otherUppercased

/-- The letters of Georgian have an upper case that does not begin words. -/
def changesWhenTitlecased : CharSet :=
  .ofCodeList [0x1c4, 0x1c7, 0x1ca, 0x1f1] ∪
    ((changesWhenUppercased \ inCategory ["Lt"]) \ .ofCodes [(0x10d0, 0x10fa), (0x10fd, 0x10ff)])

/-- The characters that only the full folding changes. -/
def otherCasefolded : CharSet :=
  .ofCodes
    [(0xdf, 0xdf), (0x130, 0x130), (0x149, 0x149), (0x587, 0x587), (0x1e9a, 0x1e9a),
     (0x1f80, 0x1f87), (0x1f90, 0x1f97), (0x1fa0, 0x1fa7), (0x1fb2, 0x1fb4), (0x1fb7, 0x1fb7),
     (0x1fc2, 0x1fc4), (0x1fc7, 0x1fc7), (0x1ff2, 0x1ff4), (0x1ff7, 0x1ff7), (0xfb00, 0xfb04),
     (0xfb06, 0xfb06), (0xfb13, 0xfb17)]

def changesWhenCasefolded : CharSet :=
  (.ofCodeList (foldRuns.flatMap CaseRun.sources) \ .ofCodeList [0x1fbe, 0x1fd3, 0x1fe3]) ∪
    otherCasefolded

def changesWhenCasemapped : CharSet :=
  .unions [changesWhenLowercased, changesWhenUppercased, changesWhenTitlecased]

/-- The properties and the names they go by, in small letters and without separators. -/
def propertyNames : List (List String × CharSet) :=
  [(["ahex", "asciihexdigit"], asciiHexDigit), (["alpha", "alphabetic"], alphabetic),
   (["bidic", "bidicontrol"], bidiControl), (["ci", "caseignorable"], caseIgnorable),
   (["cased"], cased), (["cwcf", "changeswhencasefolded"], changesWhenCasefolded),
   (["cwcm", "changeswhencasemapped"], changesWhenCasemapped),
   (["cwl", "changeswhenlowercased"], changesWhenLowercased),
   (["cwt", "changeswhentitlecased"], changesWhenTitlecased),
   (["cwu", "changeswhenuppercased"], changesWhenUppercased), (["dash"], dash),
   (["di", "defaultignorablecodepoint"], defaultIgnorable), (["dep", "deprecated"], deprecated),
   (["dia", "diacritic"], diacritic), (["emoji"], emoji),
   (["ecomp", "emojicomponent"], emojiComponent), (["emod", "emojimodifier"], emojiModifier),
   (["ebase", "emojimodifierbase"], emojiModifierBase),
   (["epres", "emojipresentation"], emojiPresentation),
   (["extpict", "extendedpictographic"], extendedPictographic), (["ext", "extender"], extender),
   (["grbase", "graphemebase"], graphemeBase), (["grext", "graphemeextend"], graphemeExtend),
   (["grlink", "graphemelink"], graphemeLink), (["hex", "hexdigit"], hexDigit),
   (["hyphen"], hyphen), (["idsb", "idsbinaryoperator"], idsBinaryOperator),
   (["idst", "idstrinaryoperator"], idsTrinaryOperator),
   (["idsu", "idsunaryoperator"], idsUnaryOperator),
   (["idcompatmathcontinue"], idCompatMathContinue), (["idcompatmathstart"], idCompatMathStart),
   (["idc", "idcontinue"], idContinue), (["ids", "idstart"], idStart),
   (["ideo", "ideographic"], ideographic), (["joinc", "joincontrol"], joinControl),
   (["loe", "logicalorderexception"], logicalOrderException), (["lower", "lowercase"], lowercase),
   (["math"], math), (["mcm", "modifiercombiningmark"], modifierCombiningMark),
   (["nchar", "noncharactercodepoint"], noncharacterCodePoint),
   (["oalpha", "otheralphabetic"], otherAlphabetic),
   (["odi", "otherdefaultignorablecodepoint"], otherDefaultIgnorable),
   (["ogrext", "othergraphemeextend"], otherGraphemeExtend),
   (["oidc", "otheridcontinue"], otherIdContinue), (["oids", "otheridstart"], otherIdStart),
   (["olower", "otherlowercase"], otherLowercase), (["omath", "othermath"], otherMath),
   (["oupper", "otheruppercase"], otherUppercase), (["patsyn", "patternsyntax"], patternSyntax),
   (["patws", "patternwhitespace"], patternWhiteSpace),
   (["pcm", "prependedconcatenationmark"], prependedConcatenationMark),
   (["qmark", "quotationmark"], quotationMark), (["radical"], radical),
   (["ri", "regionalindicator"], regionalIndicator),
   (["sterm", "sentenceterminal"], sentenceTerminal), (["sd", "softdotted"], softDotted),
   (["term", "terminalpunctuation"], terminalPunctuation),
   (["uideo", "unifiedideograph"], unifiedIdeograph), (["upper", "uppercase"], uppercase),
   (["vs", "variationselector"], variationSelector),
   (["wspace", "whitespace", "space"], whiteSpace), (["xidc", "xidcontinue"], xidContinue),
   (["xids", "xidstart"], xidStart)]

/-- The characters that have a property. -/
def propertyNamed? (name : String) : Option CharSet :=
  (propertyNames.find? fun (names, _) => names.contains name).map (·.2)

end Triage.Unicode
