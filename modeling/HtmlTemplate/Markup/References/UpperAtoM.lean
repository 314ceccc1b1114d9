import HtmlTemplate.Markup.Named

set_option autoImplicit false

namespace HtmlTemplate.Markup.References

def upperA : List Named :=
  [⟨"AElig", "\u00C6"⟩, ⟨"AElig;", "\u00C6"⟩, ⟨"AMP", "\x26"⟩, ⟨"AMP;", "\x26"⟩,
    ⟨"Aacute", "\u00C1"⟩, ⟨"Aacute;", "\u00C1"⟩, ⟨"Abreve;", "\u0102"⟩, ⟨"Acirc", "\u00C2"⟩,
    ⟨"Acirc;", "\u00C2"⟩, ⟨"Acy;", "\u0410"⟩, ⟨"Afr;", "𝔄"⟩, ⟨"Agrave", "\u00C0"⟩,
    ⟨"Agrave;", "\u00C0"⟩, ⟨"Alpha;", "\u0391"⟩, ⟨"Amacr;", "\u0100"⟩, ⟨"And;", "\u2A53"⟩,
    ⟨"Aogon;", "\u0104"⟩, ⟨"Aopf;", "𝔸"⟩, ⟨"ApplyFunction;", "\u2061"⟩, ⟨"Aring", "\u00C5"⟩,
    ⟨"Aring;", "\u00C5"⟩, ⟨"Ascr;", "𝒜"⟩, ⟨"Assign;", "\u2254"⟩, ⟨"Atilde", "\u00C3"⟩,
    ⟨"Atilde;", "\u00C3"⟩, ⟨"Auml", "\u00C4"⟩, ⟨"Auml;", "\u00C4"⟩]

def upperB : List Named :=
  [⟨"Backslash;", "\u2216"⟩, ⟨"Barv;", "\u2AE7"⟩, ⟨"Barwed;", "\u2306"⟩, ⟨"Bcy;", "\u0411"⟩,
    ⟨"Because;", "\u2235"⟩, ⟨"Bernoullis;", "\u212C"⟩, ⟨"Beta;", "\u0392"⟩, ⟨"Bfr;", "𝔅"⟩,
    ⟨"Bopf;", "𝔹"⟩, ⟨"Breve;", "\u02D8"⟩, ⟨"Bscr;", "\u212C"⟩, ⟨"Bumpeq;", "\u224E"⟩]

def upperC : List Named :=
  [⟨"CHcy;", "\u0427"⟩, ⟨"COPY", "\u00A9"⟩, ⟨"COPY;", "\u00A9"⟩, ⟨"Cacute;", "\u0106"⟩,
    ⟨"Cap;", "\u22D2"⟩, ⟨"CapitalDifferentialD;", "\u2145"⟩, ⟨"Cayleys;", "\u212D"⟩,
    ⟨"Ccaron;", "\u010C"⟩, ⟨"Ccedil", "\u00C7"⟩, ⟨"Ccedil;", "\u00C7"⟩, ⟨"Ccirc;", "\u0108"⟩,
    ⟨"Cconint;", "\u2230"⟩, ⟨"Cdot;", "\u010A"⟩, ⟨"Cedilla;", "\u00B8"⟩, ⟨"CenterDot;", "\u00B7"⟩,
    ⟨"Cfr;", "\u212D"⟩, ⟨"Chi;", "\u03A7"⟩, ⟨"CircleDot;", "\u2299"⟩, ⟨"CircleMinus;", "\u2296"⟩,
    ⟨"CirclePlus;", "\u2295"⟩, ⟨"CircleTimes;", "\u2297"⟩, ⟨"ClockwiseContourIntegral;", "\u2232"⟩,
    ⟨"CloseCurlyDoubleQuote;", "\u201D"⟩, ⟨"CloseCurlyQuote;", "\u2019"⟩, ⟨"Colon;", "\u2237"⟩,
    ⟨"Colone;", "\u2A74"⟩, ⟨"Congruent;", "\u2261"⟩, ⟨"Conint;", "\u222F"⟩,
    ⟨"ContourIntegral;", "\u222E"⟩, ⟨"Copf;", "\u2102"⟩, ⟨"Coproduct;", "\u2210"⟩,
    ⟨"CounterClockwiseContourIntegral;", "\u2233"⟩, ⟨"Cross;", "\u2A2F"⟩, ⟨"Cscr;", "𝒞"⟩,
    ⟨"Cup;", "\u22D3"⟩, ⟨"CupCap;", "\u224D"⟩]

def upperD : List Named :=
  [⟨"DD;", "\u2145"⟩, ⟨"DDotrahd;", "\u2911"⟩, ⟨"DJcy;", "\u0402"⟩, ⟨"DScy;", "\u0405"⟩,
    ⟨"DZcy;", "\u040F"⟩, ⟨"Dagger;", "\u2021"⟩, ⟨"Darr;", "\u21A1"⟩, ⟨"Dashv;", "\u2AE4"⟩,
    ⟨"Dcaron;", "\u010E"⟩, ⟨"Dcy;", "\u0414"⟩, ⟨"Del;", "\u2207"⟩, ⟨"Delta;", "\u0394"⟩,
    ⟨"Dfr;", "𝔇"⟩, ⟨"DiacriticalAcute;", "\u00B4"⟩, ⟨"DiacriticalDot;", "\u02D9"⟩,
    ⟨"DiacriticalDoubleAcute;", "\u02DD"⟩, ⟨"DiacriticalGrave;", "\x60"⟩,
    ⟨"DiacriticalTilde;", "\u02DC"⟩, ⟨"Diamond;", "\u22C4"⟩, ⟨"DifferentialD;", "\u2146"⟩,
    ⟨"Dopf;", "𝔻"⟩, ⟨"Dot;", "\u00A8"⟩, ⟨"DotDot;", "\u20DC"⟩, ⟨"DotEqual;", "\u2250"⟩,
    ⟨"DoubleContourIntegral;", "\u222F"⟩, ⟨"DoubleDot;", "\u00A8"⟩, ⟨"DoubleDownArrow;", "\u21D3"⟩,
    ⟨"DoubleLeftArrow;", "\u21D0"⟩, ⟨"DoubleLeftRightArrow;", "\u21D4"⟩,
    ⟨"DoubleLeftTee;", "\u2AE4"⟩, ⟨"DoubleLongLeftArrow;", "\u27F8"⟩,
    ⟨"DoubleLongLeftRightArrow;", "\u27FA"⟩, ⟨"DoubleLongRightArrow;", "\u27F9"⟩,
    ⟨"DoubleRightArrow;", "\u21D2"⟩, ⟨"DoubleRightTee;", "\u22A8"⟩, ⟨"DoubleUpArrow;", "\u21D1"⟩,
    ⟨"DoubleUpDownArrow;", "\u21D5"⟩, ⟨"DoubleVerticalBar;", "\u2225"⟩, ⟨"DownArrow;", "\u2193"⟩,
    ⟨"DownArrowBar;", "\u2913"⟩, ⟨"DownArrowUpArrow;", "\u21F5"⟩, ⟨"DownBreve;", "\u0311"⟩,
    ⟨"DownLeftRightVector;", "\u2950"⟩, ⟨"DownLeftTeeVector;", "\u295E"⟩,
    ⟨"DownLeftVector;", "\u21BD"⟩, ⟨"DownLeftVectorBar;", "\u2956"⟩,
    ⟨"DownRightTeeVector;", "\u295F"⟩, ⟨"DownRightVector;", "\u21C1"⟩,
    ⟨"DownRightVectorBar;", "\u2957"⟩, ⟨"DownTee;", "\u22A4"⟩, ⟨"DownTeeArrow;", "\u21A7"⟩,
    ⟨"Downarrow;", "\u21D3"⟩, ⟨"Dscr;", "𝒟"⟩, ⟨"Dstrok;", "\u0110"⟩]

def upperE : List Named :=
  [⟨"ENG;", "\u014A"⟩, ⟨"ETH", "\u00D0"⟩, ⟨"ETH;", "\u00D0"⟩, ⟨"Eacute", "\u00C9"⟩,
    ⟨"Eacute;", "\u00C9"⟩, ⟨"Ecaron;", "\u011A"⟩, ⟨"Ecirc", "\u00CA"⟩, ⟨"Ecirc;", "\u00CA"⟩,
    ⟨"Ecy;", "\u042D"⟩, ⟨"Edot;", "\u0116"⟩, ⟨"Efr;", "𝔈"⟩, ⟨"Egrave", "\u00C8"⟩,
    ⟨"Egrave;", "\u00C8"⟩, ⟨"Element;", "\u2208"⟩, ⟨"Emacr;", "\u0112"⟩,
    ⟨"EmptySmallSquare;", "\u25FB"⟩, ⟨"EmptyVerySmallSquare;", "\u25AB"⟩, ⟨"Eogon;", "\u0118"⟩,
    ⟨"Eopf;", "𝔼"⟩, ⟨"Epsilon;", "\u0395"⟩, ⟨"Equal;", "\u2A75"⟩, ⟨"EqualTilde;", "\u2242"⟩,
    ⟨"Equilibrium;", "\u21CC"⟩, ⟨"Escr;", "\u2130"⟩, ⟨"Esim;", "\u2A73"⟩, ⟨"Eta;", "\u0397"⟩,
    ⟨"Euml", "\u00CB"⟩, ⟨"Euml;", "\u00CB"⟩, ⟨"Exists;", "\u2203"⟩, ⟨"ExponentialE;", "\u2147"⟩]

def upperF : List Named :=
  [⟨"Fcy;", "\u0424"⟩, ⟨"Ffr;", "𝔉"⟩, ⟨"FilledSmallSquare;", "\u25FC"⟩,
    ⟨"FilledVerySmallSquare;", "\u25AA"⟩, ⟨"Fopf;", "𝔽"⟩, ⟨"ForAll;", "\u2200"⟩,
    ⟨"Fouriertrf;", "\u2131"⟩, ⟨"Fscr;", "\u2131"⟩]

def upperG : List Named :=
  [⟨"GJcy;", "\u0403"⟩, ⟨"GT", "\x3e"⟩, ⟨"GT;", "\x3e"⟩, ⟨"Gamma;", "\u0393"⟩,
    ⟨"Gammad;", "\u03DC"⟩, ⟨"Gbreve;", "\u011E"⟩, ⟨"Gcedil;", "\u0122"⟩, ⟨"Gcirc;", "\u011C"⟩,
    ⟨"Gcy;", "\u0413"⟩, ⟨"Gdot;", "\u0120"⟩, ⟨"Gfr;", "𝔊"⟩, ⟨"Gg;", "\u22D9"⟩, ⟨"Gopf;", "𝔾"⟩,
    ⟨"GreaterEqual;", "\u2265"⟩, ⟨"GreaterEqualLess;", "\u22DB"⟩, ⟨"GreaterFullEqual;", "\u2267"⟩,
    ⟨"GreaterGreater;", "\u2AA2"⟩, ⟨"GreaterLess;", "\u2277"⟩, ⟨"GreaterSlantEqual;", "\u2A7E"⟩,
    ⟨"GreaterTilde;", "\u2273"⟩, ⟨"Gscr;", "𝒢"⟩, ⟨"Gt;", "\u226B"⟩]

def upperH : List Named :=
  [⟨"HARDcy;", "\u042A"⟩, ⟨"Hacek;", "\u02C7"⟩, ⟨"Hat;", "\x5e"⟩, ⟨"Hcirc;", "\u0124"⟩,
    ⟨"Hfr;", "\u210C"⟩, ⟨"HilbertSpace;", "\u210B"⟩, ⟨"Hopf;", "\u210D"⟩,
    ⟨"HorizontalLine;", "\u2500"⟩, ⟨"Hscr;", "\u210B"⟩, ⟨"Hstrok;", "\u0126"⟩,
    ⟨"HumpDownHump;", "\u224E"⟩, ⟨"HumpEqual;", "\u224F"⟩]

def upperI : List Named :=
  [⟨"IEcy;", "\u0415"⟩, ⟨"IJlig;", "\u0132"⟩, ⟨"IOcy;", "\u0401"⟩, ⟨"Iacute", "\u00CD"⟩,
    ⟨"Iacute;", "\u00CD"⟩, ⟨"Icirc", "\u00CE"⟩, ⟨"Icirc;", "\u00CE"⟩, ⟨"Icy;", "\u0418"⟩,
    ⟨"Idot;", "\u0130"⟩, ⟨"Ifr;", "\u2111"⟩, ⟨"Igrave", "\u00CC"⟩, ⟨"Igrave;", "\u00CC"⟩,
    ⟨"Im;", "\u2111"⟩, ⟨"Imacr;", "\u012A"⟩, ⟨"ImaginaryI;", "\u2148"⟩, ⟨"Implies;", "\u21D2"⟩,
    ⟨"Int;", "\u222C"⟩, ⟨"Integral;", "\u222B"⟩, ⟨"Intersection;", "\u22C2"⟩,
    ⟨"InvisibleComma;", "\u2063"⟩, ⟨"InvisibleTimes;", "\u2062"⟩, ⟨"Iogon;", "\u012E"⟩,
    ⟨"Iopf;", "𝕀"⟩, ⟨"Iota;", "\u0399"⟩, ⟨"Iscr;", "\u2110"⟩, ⟨"Itilde;", "\u0128"⟩,
    ⟨"Iukcy;", "\u0406"⟩, ⟨"Iuml", "\u00CF"⟩, ⟨"Iuml;", "\u00CF"⟩]

def upperJ : List Named :=
  [⟨"Jcirc;", "\u0134"⟩, ⟨"Jcy;", "\u0419"⟩, ⟨"Jfr;", "𝔍"⟩, ⟨"Jopf;", "𝕁"⟩, ⟨"Jscr;", "𝒥"⟩,
    ⟨"Jsercy;", "\u0408"⟩, ⟨"Jukcy;", "\u0404"⟩]

def upperK : List Named :=
  [⟨"KHcy;", "\u0425"⟩, ⟨"KJcy;", "\u040C"⟩, ⟨"Kappa;", "\u039A"⟩, ⟨"Kcedil;", "\u0136"⟩,
    ⟨"Kcy;", "\u041A"⟩, ⟨"Kfr;", "𝔎"⟩, ⟨"Kopf;", "𝕂"⟩, ⟨"Kscr;", "𝒦"⟩]

def upperL : List Named :=
  [⟨"LJcy;", "\u0409"⟩, ⟨"LT", "\x3c"⟩, ⟨"LT;", "\x3c"⟩, ⟨"Lacute;", "\u0139"⟩,
    ⟨"Lambda;", "\u039B"⟩, ⟨"Lang;", "\u27EA"⟩, ⟨"Laplacetrf;", "\u2112"⟩, ⟨"Larr;", "\u219E"⟩,
    ⟨"Lcaron;", "\u013D"⟩, ⟨"Lcedil;", "\u013B"⟩, ⟨"Lcy;", "\u041B"⟩,
    ⟨"LeftAngleBracket;", "\u27E8"⟩, ⟨"LeftArrow;", "\u2190"⟩, ⟨"LeftArrowBar;", "\u21E4"⟩,
    ⟨"LeftArrowRightArrow;", "\u21C6"⟩, ⟨"LeftCeiling;", "\u2308"⟩,
    ⟨"LeftDoubleBracket;", "\u27E6"⟩, ⟨"LeftDownTeeVector;", "\u2961"⟩,
    ⟨"LeftDownVector;", "\u21C3"⟩, ⟨"LeftDownVectorBar;", "\u2959"⟩, ⟨"LeftFloor;", "\u230A"⟩,
    ⟨"LeftRightArrow;", "\u2194"⟩, ⟨"LeftRightVector;", "\u294E"⟩, ⟨"LeftTee;", "\u22A3"⟩,
    ⟨"LeftTeeArrow;", "\u21A4"⟩, ⟨"LeftTeeVector;", "\u295A"⟩, ⟨"LeftTriangle;", "\u22B2"⟩,
    ⟨"LeftTriangleBar;", "\u29CF"⟩, ⟨"LeftTriangleEqual;", "\u22B4"⟩,
    ⟨"LeftUpDownVector;", "\u2951"⟩, ⟨"LeftUpTeeVector;", "\u2960"⟩, ⟨"LeftUpVector;", "\u21BF"⟩,
    ⟨"LeftUpVectorBar;", "\u2958"⟩, ⟨"LeftVector;", "\u21BC"⟩, ⟨"LeftVectorBar;", "\u2952"⟩,
    ⟨"Leftarrow;", "\u21D0"⟩, ⟨"Leftrightarrow;", "\u21D4"⟩, ⟨"LessEqualGreater;", "\u22DA"⟩,
    ⟨"LessFullEqual;", "\u2266"⟩, ⟨"LessGreater;", "\u2276"⟩, ⟨"LessLess;", "\u2AA1"⟩,
    ⟨"LessSlantEqual;", "\u2A7D"⟩, ⟨"LessTilde;", "\u2272"⟩, ⟨"Lfr;", "𝔏"⟩, ⟨"Ll;", "\u22D8"⟩,
    ⟨"Lleftarrow;", "\u21DA"⟩, ⟨"Lmidot;", "\u013F"⟩, ⟨"LongLeftArrow;", "\u27F5"⟩,
    ⟨"LongLeftRightArrow;", "\u27F7"⟩, ⟨"LongRightArrow;", "\u27F6"⟩, ⟨"Longleftarrow;", "\u27F8"⟩,
    ⟨"Longleftrightarrow;", "\u27FA"⟩, ⟨"Longrightarrow;", "\u27F9"⟩, ⟨"Lopf;", "𝕃"⟩,
    ⟨"LowerLeftArrow;", "\u2199"⟩, ⟨"LowerRightArrow;", "\u2198"⟩, ⟨"Lscr;", "\u2112"⟩,
    ⟨"Lsh;", "\u21B0"⟩, ⟨"Lstrok;", "\u0141"⟩, ⟨"Lt;", "\u226A"⟩]

def upperM : List Named :=
  [⟨"Map;", "\u2905"⟩, ⟨"Mcy;", "\u041C"⟩, ⟨"MediumSpace;", "\u205F"⟩, ⟨"Mellintrf;", "\u2133"⟩,
    ⟨"Mfr;", "𝔐"⟩, ⟨"MinusPlus;", "\u2213"⟩, ⟨"Mopf;", "𝕄"⟩, ⟨"Mscr;", "\u2133"⟩,
    ⟨"Mu;", "\u039C"⟩]

end HtmlTemplate.Markup.References
