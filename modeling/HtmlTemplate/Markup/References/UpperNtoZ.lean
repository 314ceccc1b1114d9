import HtmlTemplate.Markup.Named

set_option autoImplicit false

namespace HtmlTemplate.Markup.References

def upperN : List Named :=
  [⟨"NJcy;", "\u040A"⟩, ⟨"Nacute;", "\u0143"⟩, ⟨"Ncaron;", "\u0147"⟩, ⟨"Ncedil;", "\u0145"⟩,
    ⟨"Ncy;", "\u041D"⟩, ⟨"NegativeMediumSpace;", "\u200B"⟩, ⟨"NegativeThickSpace;", "\u200B"⟩,
    ⟨"NegativeThinSpace;", "\u200B"⟩, ⟨"NegativeVeryThinSpace;", "\u200B"⟩,
    ⟨"NestedGreaterGreater;", "\u226B"⟩, ⟨"NestedLessLess;", "\u226A"⟩, ⟨"NewLine;", "\x0a"⟩,
    ⟨"Nfr;", "𝔑"⟩, ⟨"NoBreak;", "\u2060"⟩, ⟨"NonBreakingSpace;", "\u00A0"⟩, ⟨"Nopf;", "\u2115"⟩,
    ⟨"Not;", "\u2AEC"⟩, ⟨"NotCongruent;", "\u2262"⟩, ⟨"NotCupCap;", "\u226D"⟩,
    ⟨"NotDoubleVerticalBar;", "\u2226"⟩, ⟨"NotElement;", "\u2209"⟩, ⟨"NotEqual;", "\u2260"⟩,
    ⟨"NotEqualTilde;", "\u2242\u0338"⟩, ⟨"NotExists;", "\u2204"⟩, ⟨"NotGreater;", "\u226F"⟩,
    ⟨"NotGreaterEqual;", "\u2271"⟩, ⟨"NotGreaterFullEqual;", "\u2267\u0338"⟩,
    ⟨"NotGreaterGreater;", "\u226B\u0338"⟩, ⟨"NotGreaterLess;", "\u2279"⟩,
    ⟨"NotGreaterSlantEqual;", "\u2A7E\u0338"⟩, ⟨"NotGreaterTilde;", "\u2275"⟩,
    ⟨"NotHumpDownHump;", "\u224E\u0338"⟩, ⟨"NotHumpEqual;", "\u224F\u0338"⟩,
    ⟨"NotLeftTriangle;", "\u22EA"⟩, ⟨"NotLeftTriangleBar;", "\u29CF\u0338"⟩,
    ⟨"NotLeftTriangleEqual;", "\u22EC"⟩, ⟨"NotLess;", "\u226E"⟩, ⟨"NotLessEqual;", "\u2270"⟩,
    ⟨"NotLessGreater;", "\u2278"⟩, ⟨"NotLessLess;", "\u226A\u0338"⟩,
    ⟨"NotLessSlantEqual;", "\u2A7D\u0338"⟩, ⟨"NotLessTilde;", "\u2274"⟩,
    ⟨"NotNestedGreaterGreater;", "\u2AA2\u0338"⟩, ⟨"NotNestedLessLess;", "\u2AA1\u0338"⟩,
    ⟨"NotPrecedes;", "\u2280"⟩, ⟨"NotPrecedesEqual;", "\u2AAF\u0338"⟩,
    ⟨"NotPrecedesSlantEqual;", "\u22E0"⟩, ⟨"NotReverseElement;", "\u220C"⟩,
    ⟨"NotRightTriangle;", "\u22EB"⟩, ⟨"NotRightTriangleBar;", "\u29D0\u0338"⟩,
    ⟨"NotRightTriangleEqual;", "\u22ED"⟩, ⟨"NotSquareSubset;", "\u228F\u0338"⟩,
    ⟨"NotSquareSubsetEqual;", "\u22E2"⟩, ⟨"NotSquareSuperset;", "\u2290\u0338"⟩,
    ⟨"NotSquareSupersetEqual;", "\u22E3"⟩, ⟨"NotSubset;", "\u2282\u20D2"⟩,
    ⟨"NotSubsetEqual;", "\u2288"⟩, ⟨"NotSucceeds;", "\u2281"⟩,
    ⟨"NotSucceedsEqual;", "\u2AB0\u0338"⟩, ⟨"NotSucceedsSlantEqual;", "\u22E1"⟩,
    ⟨"NotSucceedsTilde;", "\u227F\u0338"⟩, ⟨"NotSuperset;", "\u2283\u20D2"⟩,
    ⟨"NotSupersetEqual;", "\u2289"⟩, ⟨"NotTilde;", "\u2241"⟩, ⟨"NotTildeEqual;", "\u2244"⟩,
    ⟨"NotTildeFullEqual;", "\u2247"⟩, ⟨"NotTildeTilde;", "\u2249"⟩, ⟨"NotVerticalBar;", "\u2224"⟩,
    ⟨"Nscr;", "𝒩"⟩, ⟨"Ntilde", "\u00D1"⟩, ⟨"Ntilde;", "\u00D1"⟩, ⟨"Nu;", "\u039D"⟩]

def upperO : List Named :=
  [⟨"OElig;", "\u0152"⟩, ⟨"Oacute", "\u00D3"⟩, ⟨"Oacute;", "\u00D3"⟩, ⟨"Ocirc", "\u00D4"⟩,
    ⟨"Ocirc;", "\u00D4"⟩, ⟨"Ocy;", "\u041E"⟩, ⟨"Odblac;", "\u0150"⟩, ⟨"Ofr;", "𝔒"⟩,
    ⟨"Ograve", "\u00D2"⟩, ⟨"Ograve;", "\u00D2"⟩, ⟨"Omacr;", "\u014C"⟩, ⟨"Omega;", "\u03A9"⟩,
    ⟨"Omicron;", "\u039F"⟩, ⟨"Oopf;", "𝕆"⟩, ⟨"OpenCurlyDoubleQuote;", "\u201C"⟩,
    ⟨"OpenCurlyQuote;", "\u2018"⟩, ⟨"Or;", "\u2A54"⟩, ⟨"Oscr;", "𝒪"⟩, ⟨"Oslash", "\u00D8"⟩,
    ⟨"Oslash;", "\u00D8"⟩, ⟨"Otilde", "\u00D5"⟩, ⟨"Otilde;", "\u00D5"⟩, ⟨"Otimes;", "\u2A37"⟩,
    ⟨"Ouml", "\u00D6"⟩, ⟨"Ouml;", "\u00D6"⟩, ⟨"OverBar;", "\u203E"⟩, ⟨"OverBrace;", "\u23DE"⟩,
    ⟨"OverBracket;", "\u23B4"⟩, ⟨"OverParenthesis;", "\u23DC"⟩]

def upperP : List Named :=
  [⟨"PartialD;", "\u2202"⟩, ⟨"Pcy;", "\u041F"⟩, ⟨"Pfr;", "𝔓"⟩, ⟨"Phi;", "\u03A6"⟩,
    ⟨"Pi;", "\u03A0"⟩, ⟨"PlusMinus;", "\u00B1"⟩, ⟨"Poincareplane;", "\u210C"⟩, ⟨"Popf;", "\u2119"⟩,
    ⟨"Pr;", "\u2ABB"⟩, ⟨"Precedes;", "\u227A"⟩, ⟨"PrecedesEqual;", "\u2AAF"⟩,
    ⟨"PrecedesSlantEqual;", "\u227C"⟩, ⟨"PrecedesTilde;", "\u227E"⟩, ⟨"Prime;", "\u2033"⟩,
    ⟨"Product;", "\u220F"⟩, ⟨"Proportion;", "\u2237"⟩, ⟨"Proportional;", "\u221D"⟩, ⟨"Pscr;", "𝒫"⟩,
    ⟨"Psi;", "\u03A8"⟩]

def upperQ : List Named :=
  [⟨"QUOT", "\x22"⟩, ⟨"QUOT;", "\x22"⟩, ⟨"Qfr;", "𝔔"⟩, ⟨"Qopf;", "\u211A"⟩, ⟨"Qscr;", "𝒬"⟩]

def upperR : List Named :=
  [⟨"RBarr;", "\u2910"⟩, ⟨"REG", "\u00AE"⟩, ⟨"REG;", "\u00AE"⟩, ⟨"Racute;", "\u0154"⟩,
    ⟨"Rang;", "\u27EB"⟩, ⟨"Rarr;", "\u21A0"⟩, ⟨"Rarrtl;", "\u2916"⟩, ⟨"Rcaron;", "\u0158"⟩,
    ⟨"Rcedil;", "\u0156"⟩, ⟨"Rcy;", "\u0420"⟩, ⟨"Re;", "\u211C"⟩, ⟨"ReverseElement;", "\u220B"⟩,
    ⟨"ReverseEquilibrium;", "\u21CB"⟩, ⟨"ReverseUpEquilibrium;", "\u296F"⟩, ⟨"Rfr;", "\u211C"⟩,
    ⟨"Rho;", "\u03A1"⟩, ⟨"RightAngleBracket;", "\u27E9"⟩, ⟨"RightArrow;", "\u2192"⟩,
    ⟨"RightArrowBar;", "\u21E5"⟩, ⟨"RightArrowLeftArrow;", "\u21C4"⟩, ⟨"RightCeiling;", "\u2309"⟩,
    ⟨"RightDoubleBracket;", "\u27E7"⟩, ⟨"RightDownTeeVector;", "\u295D"⟩,
    ⟨"RightDownVector;", "\u21C2"⟩, ⟨"RightDownVectorBar;", "\u2955"⟩, ⟨"RightFloor;", "\u230B"⟩,
    ⟨"RightTee;", "\u22A2"⟩, ⟨"RightTeeArrow;", "\u21A6"⟩, ⟨"RightTeeVector;", "\u295B"⟩,
    ⟨"RightTriangle;", "\u22B3"⟩, ⟨"RightTriangleBar;", "\u29D0"⟩,
    ⟨"RightTriangleEqual;", "\u22B5"⟩, ⟨"RightUpDownVector;", "\u294F"⟩,
    ⟨"RightUpTeeVector;", "\u295C"⟩, ⟨"RightUpVector;", "\u21BE"⟩, ⟨"RightUpVectorBar;", "\u2954"⟩,
    ⟨"RightVector;", "\u21C0"⟩, ⟨"RightVectorBar;", "\u2953"⟩, ⟨"Rightarrow;", "\u21D2"⟩,
    ⟨"Ropf;", "\u211D"⟩, ⟨"RoundImplies;", "\u2970"⟩, ⟨"Rrightarrow;", "\u21DB"⟩,
    ⟨"Rscr;", "\u211B"⟩, ⟨"Rsh;", "\u21B1"⟩, ⟨"RuleDelayed;", "\u29F4"⟩]

def upperS : List Named :=
  [⟨"SHCHcy;", "\u0429"⟩, ⟨"SHcy;", "\u0428"⟩, ⟨"SOFTcy;", "\u042C"⟩, ⟨"Sacute;", "\u015A"⟩,
    ⟨"Sc;", "\u2ABC"⟩, ⟨"Scaron;", "\u0160"⟩, ⟨"Scedil;", "\u015E"⟩, ⟨"Scirc;", "\u015C"⟩,
    ⟨"Scy;", "\u0421"⟩, ⟨"Sfr;", "𝔖"⟩, ⟨"ShortDownArrow;", "\u2193"⟩,
    ⟨"ShortLeftArrow;", "\u2190"⟩, ⟨"ShortRightArrow;", "\u2192"⟩, ⟨"ShortUpArrow;", "\u2191"⟩,
    ⟨"Sigma;", "\u03A3"⟩, ⟨"SmallCircle;", "\u2218"⟩, ⟨"Sopf;", "𝕊"⟩, ⟨"Sqrt;", "\u221A"⟩,
    ⟨"Square;", "\u25A1"⟩, ⟨"SquareIntersection;", "\u2293"⟩, ⟨"SquareSubset;", "\u228F"⟩,
    ⟨"SquareSubsetEqual;", "\u2291"⟩, ⟨"SquareSuperset;", "\u2290"⟩,
    ⟨"SquareSupersetEqual;", "\u2292"⟩, ⟨"SquareUnion;", "\u2294"⟩, ⟨"Sscr;", "𝒮"⟩,
    ⟨"Star;", "\u22C6"⟩, ⟨"Sub;", "\u22D0"⟩, ⟨"Subset;", "\u22D0"⟩, ⟨"SubsetEqual;", "\u2286"⟩,
    ⟨"Succeeds;", "\u227B"⟩, ⟨"SucceedsEqual;", "\u2AB0"⟩, ⟨"SucceedsSlantEqual;", "\u227D"⟩,
    ⟨"SucceedsTilde;", "\u227F"⟩, ⟨"SuchThat;", "\u220B"⟩, ⟨"Sum;", "\u2211"⟩, ⟨"Sup;", "\u22D1"⟩,
    ⟨"Superset;", "\u2283"⟩, ⟨"SupersetEqual;", "\u2287"⟩, ⟨"Supset;", "\u22D1"⟩]

def upperT : List Named :=
  [⟨"THORN", "\u00DE"⟩, ⟨"THORN;", "\u00DE"⟩, ⟨"TRADE;", "\u2122"⟩, ⟨"TSHcy;", "\u040B"⟩,
    ⟨"TScy;", "\u0426"⟩, ⟨"Tab;", "\x09"⟩, ⟨"Tau;", "\u03A4"⟩, ⟨"Tcaron;", "\u0164"⟩,
    ⟨"Tcedil;", "\u0162"⟩, ⟨"Tcy;", "\u0422"⟩, ⟨"Tfr;", "𝔗"⟩, ⟨"Therefore;", "\u2234"⟩,
    ⟨"Theta;", "\u0398"⟩, ⟨"ThickSpace;", "\u205F\u200A"⟩, ⟨"ThinSpace;", "\u2009"⟩,
    ⟨"Tilde;", "\u223C"⟩, ⟨"TildeEqual;", "\u2243"⟩, ⟨"TildeFullEqual;", "\u2245"⟩,
    ⟨"TildeTilde;", "\u2248"⟩, ⟨"Topf;", "𝕋"⟩, ⟨"TripleDot;", "\u20DB"⟩, ⟨"Tscr;", "𝒯"⟩,
    ⟨"Tstrok;", "\u0166"⟩]

def upperU : List Named :=
  [⟨"Uacute", "\u00DA"⟩, ⟨"Uacute;", "\u00DA"⟩, ⟨"Uarr;", "\u219F"⟩, ⟨"Uarrocir;", "\u2949"⟩,
    ⟨"Ubrcy;", "\u040E"⟩, ⟨"Ubreve;", "\u016C"⟩, ⟨"Ucirc", "\u00DB"⟩, ⟨"Ucirc;", "\u00DB"⟩,
    ⟨"Ucy;", "\u0423"⟩, ⟨"Udblac;", "\u0170"⟩, ⟨"Ufr;", "𝔘"⟩, ⟨"Ugrave", "\u00D9"⟩,
    ⟨"Ugrave;", "\u00D9"⟩, ⟨"Umacr;", "\u016A"⟩, ⟨"UnderBar;", "\x5f"⟩, ⟨"UnderBrace;", "\u23DF"⟩,
    ⟨"UnderBracket;", "\u23B5"⟩, ⟨"UnderParenthesis;", "\u23DD"⟩, ⟨"Union;", "\u22C3"⟩,
    ⟨"UnionPlus;", "\u228E"⟩, ⟨"Uogon;", "\u0172"⟩, ⟨"Uopf;", "𝕌"⟩, ⟨"UpArrow;", "\u2191"⟩,
    ⟨"UpArrowBar;", "\u2912"⟩, ⟨"UpArrowDownArrow;", "\u21C5"⟩, ⟨"UpDownArrow;", "\u2195"⟩,
    ⟨"UpEquilibrium;", "\u296E"⟩, ⟨"UpTee;", "\u22A5"⟩, ⟨"UpTeeArrow;", "\u21A5"⟩,
    ⟨"Uparrow;", "\u21D1"⟩, ⟨"Updownarrow;", "\u21D5"⟩, ⟨"UpperLeftArrow;", "\u2196"⟩,
    ⟨"UpperRightArrow;", "\u2197"⟩, ⟨"Upsi;", "\u03D2"⟩, ⟨"Upsilon;", "\u03A5"⟩,
    ⟨"Uring;", "\u016E"⟩, ⟨"Uscr;", "𝒰"⟩, ⟨"Utilde;", "\u0168"⟩, ⟨"Uuml", "\u00DC"⟩,
    ⟨"Uuml;", "\u00DC"⟩]

def upperV : List Named :=
  [⟨"VDash;", "\u22AB"⟩, ⟨"Vbar;", "\u2AEB"⟩, ⟨"Vcy;", "\u0412"⟩, ⟨"Vdash;", "\u22A9"⟩,
    ⟨"Vdashl;", "\u2AE6"⟩, ⟨"Vee;", "\u22C1"⟩, ⟨"Verbar;", "\u2016"⟩, ⟨"Vert;", "\u2016"⟩,
    ⟨"VerticalBar;", "\u2223"⟩, ⟨"VerticalLine;", "\x7c"⟩, ⟨"VerticalSeparator;", "\u2758"⟩,
    ⟨"VerticalTilde;", "\u2240"⟩, ⟨"VeryThinSpace;", "\u200A"⟩, ⟨"Vfr;", "𝔙"⟩, ⟨"Vopf;", "𝕍"⟩,
    ⟨"Vscr;", "𝒱"⟩, ⟨"Vvdash;", "\u22AA"⟩]

def upperW : List Named :=
  [⟨"Wcirc;", "\u0174"⟩, ⟨"Wedge;", "\u22C0"⟩, ⟨"Wfr;", "𝔚"⟩, ⟨"Wopf;", "𝕎"⟩, ⟨"Wscr;", "𝒲"⟩]

def upperX : List Named :=
  [⟨"Xfr;", "𝔛"⟩, ⟨"Xi;", "\u039E"⟩, ⟨"Xopf;", "𝕏"⟩, ⟨"Xscr;", "𝒳"⟩]

def upperY : List Named :=
  [⟨"YAcy;", "\u042F"⟩, ⟨"YIcy;", "\u0407"⟩, ⟨"YUcy;", "\u042E"⟩, ⟨"Yacute", "\u00DD"⟩,
    ⟨"Yacute;", "\u00DD"⟩, ⟨"Ycirc;", "\u0176"⟩, ⟨"Ycy;", "\u042B"⟩, ⟨"Yfr;", "𝔜"⟩, ⟨"Yopf;", "𝕐"⟩,
    ⟨"Yscr;", "𝒴"⟩, ⟨"Yuml;", "\u0178"⟩]

def upperZ : List Named :=
  [⟨"ZHcy;", "\u0416"⟩, ⟨"Zacute;", "\u0179"⟩, ⟨"Zcaron;", "\u017D"⟩, ⟨"Zcy;", "\u0417"⟩,
    ⟨"Zdot;", "\u017B"⟩, ⟨"ZeroWidthSpace;", "\u200B"⟩, ⟨"Zeta;", "\u0396"⟩, ⟨"Zfr;", "\u2128"⟩,
    ⟨"Zopf;", "\u2124"⟩, ⟨"Zscr;", "𝒵"⟩]

end HtmlTemplate.Markup.References
