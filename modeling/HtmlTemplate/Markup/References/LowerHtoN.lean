import HtmlTemplate.Markup.Named

set_option autoImplicit false

namespace HtmlTemplate.Markup.References

def lowerH : List Named :=
  [⟨"hArr;", "\u21D4"⟩, ⟨"hairsp;", "\u200A"⟩, ⟨"half;", "\u00BD"⟩, ⟨"hamilt;", "\u210B"⟩,
    ⟨"hardcy;", "\u044A"⟩, ⟨"harr;", "\u2194"⟩, ⟨"harrcir;", "\u2948"⟩, ⟨"harrw;", "\u21AD"⟩,
    ⟨"hbar;", "\u210F"⟩, ⟨"hcirc;", "\u0125"⟩, ⟨"hearts;", "\u2665"⟩, ⟨"heartsuit;", "\u2665"⟩,
    ⟨"hellip;", "\u2026"⟩, ⟨"hercon;", "\u22B9"⟩, ⟨"hfr;", "𝔥"⟩, ⟨"hksearow;", "\u2925"⟩,
    ⟨"hkswarow;", "\u2926"⟩, ⟨"hoarr;", "\u21FF"⟩, ⟨"homtht;", "\u223B"⟩,
    ⟨"hookleftarrow;", "\u21A9"⟩, ⟨"hookrightarrow;", "\u21AA"⟩, ⟨"hopf;", "𝕙"⟩,
    ⟨"horbar;", "\u2015"⟩, ⟨"hscr;", "𝒽"⟩, ⟨"hslash;", "\u210F"⟩, ⟨"hstrok;", "\u0127"⟩,
    ⟨"hybull;", "\u2043"⟩, ⟨"hyphen;", "\u2010"⟩]

def lowerI : List Named :=
  [⟨"iacute", "\u00ED"⟩, ⟨"iacute;", "\u00ED"⟩, ⟨"ic;", "\u2063"⟩, ⟨"icirc", "\u00EE"⟩,
    ⟨"icirc;", "\u00EE"⟩, ⟨"icy;", "\u0438"⟩, ⟨"iecy;", "\u0435"⟩, ⟨"iexcl", "\u00A1"⟩,
    ⟨"iexcl;", "\u00A1"⟩, ⟨"iff;", "\u21D4"⟩, ⟨"ifr;", "𝔦"⟩, ⟨"igrave", "\u00EC"⟩,
    ⟨"igrave;", "\u00EC"⟩, ⟨"ii;", "\u2148"⟩, ⟨"iiiint;", "\u2A0C"⟩, ⟨"iiint;", "\u222D"⟩,
    ⟨"iinfin;", "\u29DC"⟩, ⟨"iiota;", "\u2129"⟩, ⟨"ijlig;", "\u0133"⟩, ⟨"imacr;", "\u012B"⟩,
    ⟨"image;", "\u2111"⟩, ⟨"imagline;", "\u2110"⟩, ⟨"imagpart;", "\u2111"⟩, ⟨"imath;", "\u0131"⟩,
    ⟨"imof;", "\u22B7"⟩, ⟨"imped;", "\u01B5"⟩, ⟨"in;", "\u2208"⟩, ⟨"incare;", "\u2105"⟩,
    ⟨"infin;", "\u221E"⟩, ⟨"infintie;", "\u29DD"⟩, ⟨"inodot;", "\u0131"⟩, ⟨"int;", "\u222B"⟩,
    ⟨"intcal;", "\u22BA"⟩, ⟨"integers;", "\u2124"⟩, ⟨"intercal;", "\u22BA"⟩,
    ⟨"intlarhk;", "\u2A17"⟩, ⟨"intprod;", "\u2A3C"⟩, ⟨"iocy;", "\u0451"⟩, ⟨"iogon;", "\u012F"⟩,
    ⟨"iopf;", "𝕚"⟩, ⟨"iota;", "\u03B9"⟩, ⟨"iprod;", "\u2A3C"⟩, ⟨"iquest", "\u00BF"⟩,
    ⟨"iquest;", "\u00BF"⟩, ⟨"iscr;", "𝒾"⟩, ⟨"isin;", "\u2208"⟩, ⟨"isinE;", "\u22F9"⟩,
    ⟨"isindot;", "\u22F5"⟩, ⟨"isins;", "\u22F4"⟩, ⟨"isinsv;", "\u22F3"⟩, ⟨"isinv;", "\u2208"⟩,
    ⟨"it;", "\u2062"⟩, ⟨"itilde;", "\u0129"⟩, ⟨"iukcy;", "\u0456"⟩, ⟨"iuml", "\u00EF"⟩,
    ⟨"iuml;", "\u00EF"⟩]

def lowerJ : List Named :=
  [⟨"jcirc;", "\u0135"⟩, ⟨"jcy;", "\u0439"⟩, ⟨"jfr;", "𝔧"⟩, ⟨"jmath;", "\u0237"⟩, ⟨"jopf;", "𝕛"⟩,
    ⟨"jscr;", "𝒿"⟩, ⟨"jsercy;", "\u0458"⟩, ⟨"jukcy;", "\u0454"⟩]

def lowerK : List Named :=
  [⟨"kappa;", "\u03BA"⟩, ⟨"kappav;", "\u03F0"⟩, ⟨"kcedil;", "\u0137"⟩, ⟨"kcy;", "\u043A"⟩,
    ⟨"kfr;", "𝔨"⟩, ⟨"kgreen;", "\u0138"⟩, ⟨"khcy;", "\u0445"⟩, ⟨"kjcy;", "\u045C"⟩, ⟨"kopf;", "𝕜"⟩,
    ⟨"kscr;", "𝓀"⟩]

def lowerL : List Named :=
  [⟨"lAarr;", "\u21DA"⟩, ⟨"lArr;", "\u21D0"⟩, ⟨"lAtail;", "\u291B"⟩, ⟨"lBarr;", "\u290E"⟩,
    ⟨"lE;", "\u2266"⟩, ⟨"lEg;", "\u2A8B"⟩, ⟨"lHar;", "\u2962"⟩, ⟨"lacute;", "\u013A"⟩,
    ⟨"laemptyv;", "\u29B4"⟩, ⟨"lagran;", "\u2112"⟩, ⟨"lambda;", "\u03BB"⟩, ⟨"lang;", "\u27E8"⟩,
    ⟨"langd;", "\u2991"⟩, ⟨"langle;", "\u27E8"⟩, ⟨"lap;", "\u2A85"⟩, ⟨"laquo", "\u00AB"⟩,
    ⟨"laquo;", "\u00AB"⟩, ⟨"larr;", "\u2190"⟩, ⟨"larrb;", "\u21E4"⟩, ⟨"larrbfs;", "\u291F"⟩,
    ⟨"larrfs;", "\u291D"⟩, ⟨"larrhk;", "\u21A9"⟩, ⟨"larrlp;", "\u21AB"⟩, ⟨"larrpl;", "\u2939"⟩,
    ⟨"larrsim;", "\u2973"⟩, ⟨"larrtl;", "\u21A2"⟩, ⟨"lat;", "\u2AAB"⟩, ⟨"latail;", "\u2919"⟩,
    ⟨"late;", "\u2AAD"⟩, ⟨"lates;", "\u2AAD\uFE00"⟩, ⟨"lbarr;", "\u290C"⟩, ⟨"lbbrk;", "\u2772"⟩,
    ⟨"lbrace;", "\x7b"⟩, ⟨"lbrack;", "\x5b"⟩, ⟨"lbrke;", "\u298B"⟩, ⟨"lbrksld;", "\u298F"⟩,
    ⟨"lbrkslu;", "\u298D"⟩, ⟨"lcaron;", "\u013E"⟩, ⟨"lcedil;", "\u013C"⟩, ⟨"lceil;", "\u2308"⟩,
    ⟨"lcub;", "\x7b"⟩, ⟨"lcy;", "\u043B"⟩, ⟨"ldca;", "\u2936"⟩, ⟨"ldquo;", "\u201C"⟩,
    ⟨"ldquor;", "\u201E"⟩, ⟨"ldrdhar;", "\u2967"⟩, ⟨"ldrushar;", "\u294B"⟩, ⟨"ldsh;", "\u21B2"⟩,
    ⟨"le;", "\u2264"⟩, ⟨"leftarrow;", "\u2190"⟩, ⟨"leftarrowtail;", "\u21A2"⟩,
    ⟨"leftharpoondown;", "\u21BD"⟩, ⟨"leftharpoonup;", "\u21BC"⟩, ⟨"leftleftarrows;", "\u21C7"⟩,
    ⟨"leftrightarrow;", "\u2194"⟩, ⟨"leftrightarrows;", "\u21C6"⟩,
    ⟨"leftrightharpoons;", "\u21CB"⟩, ⟨"leftrightsquigarrow;", "\u21AD"⟩,
    ⟨"leftthreetimes;", "\u22CB"⟩, ⟨"leg;", "\u22DA"⟩, ⟨"leq;", "\u2264"⟩, ⟨"leqq;", "\u2266"⟩,
    ⟨"leqslant;", "\u2A7D"⟩, ⟨"les;", "\u2A7D"⟩, ⟨"lescc;", "\u2AA8"⟩, ⟨"lesdot;", "\u2A7F"⟩,
    ⟨"lesdoto;", "\u2A81"⟩, ⟨"lesdotor;", "\u2A83"⟩, ⟨"lesg;", "\u22DA\uFE00"⟩,
    ⟨"lesges;", "\u2A93"⟩, ⟨"lessapprox;", "\u2A85"⟩, ⟨"lessdot;", "\u22D6"⟩,
    ⟨"lesseqgtr;", "\u22DA"⟩, ⟨"lesseqqgtr;", "\u2A8B"⟩, ⟨"lessgtr;", "\u2276"⟩,
    ⟨"lesssim;", "\u2272"⟩, ⟨"lfisht;", "\u297C"⟩, ⟨"lfloor;", "\u230A"⟩, ⟨"lfr;", "𝔩"⟩,
    ⟨"lg;", "\u2276"⟩, ⟨"lgE;", "\u2A91"⟩, ⟨"lhard;", "\u21BD"⟩, ⟨"lharu;", "\u21BC"⟩,
    ⟨"lharul;", "\u296A"⟩, ⟨"lhblk;", "\u2584"⟩, ⟨"ljcy;", "\u0459"⟩, ⟨"ll;", "\u226A"⟩,
    ⟨"llarr;", "\u21C7"⟩, ⟨"llcorner;", "\u231E"⟩, ⟨"llhard;", "\u296B"⟩, ⟨"lltri;", "\u25FA"⟩,
    ⟨"lmidot;", "\u0140"⟩, ⟨"lmoust;", "\u23B0"⟩, ⟨"lmoustache;", "\u23B0"⟩, ⟨"lnE;", "\u2268"⟩,
    ⟨"lnap;", "\u2A89"⟩, ⟨"lnapprox;", "\u2A89"⟩, ⟨"lne;", "\u2A87"⟩, ⟨"lneq;", "\u2A87"⟩,
    ⟨"lneqq;", "\u2268"⟩, ⟨"lnsim;", "\u22E6"⟩, ⟨"loang;", "\u27EC"⟩, ⟨"loarr;", "\u21FD"⟩,
    ⟨"lobrk;", "\u27E6"⟩, ⟨"longleftarrow;", "\u27F5"⟩, ⟨"longleftrightarrow;", "\u27F7"⟩,
    ⟨"longmapsto;", "\u27FC"⟩, ⟨"longrightarrow;", "\u27F6"⟩, ⟨"looparrowleft;", "\u21AB"⟩,
    ⟨"looparrowright;", "\u21AC"⟩, ⟨"lopar;", "\u2985"⟩, ⟨"lopf;", "𝕝"⟩, ⟨"loplus;", "\u2A2D"⟩,
    ⟨"lotimes;", "\u2A34"⟩, ⟨"lowast;", "\u2217"⟩, ⟨"lowbar;", "\x5f"⟩, ⟨"loz;", "\u25CA"⟩,
    ⟨"lozenge;", "\u25CA"⟩, ⟨"lozf;", "\u29EB"⟩, ⟨"lpar;", "\x28"⟩, ⟨"lparlt;", "\u2993"⟩,
    ⟨"lrarr;", "\u21C6"⟩, ⟨"lrcorner;", "\u231F"⟩, ⟨"lrhar;", "\u21CB"⟩, ⟨"lrhard;", "\u296D"⟩,
    ⟨"lrm;", "\u200E"⟩, ⟨"lrtri;", "\u22BF"⟩, ⟨"lsaquo;", "\u2039"⟩, ⟨"lscr;", "𝓁"⟩,
    ⟨"lsh;", "\u21B0"⟩, ⟨"lsim;", "\u2272"⟩, ⟨"lsime;", "\u2A8D"⟩, ⟨"lsimg;", "\u2A8F"⟩,
    ⟨"lsqb;", "\x5b"⟩, ⟨"lsquo;", "\u2018"⟩, ⟨"lsquor;", "\u201A"⟩, ⟨"lstrok;", "\u0142"⟩,
    ⟨"lt", "\x3c"⟩, ⟨"lt;", "\x3c"⟩, ⟨"ltcc;", "\u2AA6"⟩, ⟨"ltcir;", "\u2A79"⟩,
    ⟨"ltdot;", "\u22D6"⟩, ⟨"lthree;", "\u22CB"⟩, ⟨"ltimes;", "\u22C9"⟩, ⟨"ltlarr;", "\u2976"⟩,
    ⟨"ltquest;", "\u2A7B"⟩, ⟨"ltrPar;", "\u2996"⟩, ⟨"ltri;", "\u25C3"⟩, ⟨"ltrie;", "\u22B4"⟩,
    ⟨"ltrif;", "\u25C2"⟩, ⟨"lurdshar;", "\u294A"⟩, ⟨"luruhar;", "\u2966"⟩,
    ⟨"lvertneqq;", "\u2268\uFE00"⟩, ⟨"lvnE;", "\u2268\uFE00"⟩]

def lowerM : List Named :=
  [⟨"mDDot;", "\u223A"⟩, ⟨"macr", "\u00AF"⟩, ⟨"macr;", "\u00AF"⟩, ⟨"male;", "\u2642"⟩,
    ⟨"malt;", "\u2720"⟩, ⟨"maltese;", "\u2720"⟩, ⟨"map;", "\u21A6"⟩, ⟨"mapsto;", "\u21A6"⟩,
    ⟨"mapstodown;", "\u21A7"⟩, ⟨"mapstoleft;", "\u21A4"⟩, ⟨"mapstoup;", "\u21A5"⟩,
    ⟨"marker;", "\u25AE"⟩, ⟨"mcomma;", "\u2A29"⟩, ⟨"mcy;", "\u043C"⟩, ⟨"mdash;", "\u2014"⟩,
    ⟨"measuredangle;", "\u2221"⟩, ⟨"mfr;", "𝔪"⟩, ⟨"mho;", "\u2127"⟩, ⟨"micro", "\u00B5"⟩,
    ⟨"micro;", "\u00B5"⟩, ⟨"mid;", "\u2223"⟩, ⟨"midast;", "\x2a"⟩, ⟨"midcir;", "\u2AF0"⟩,
    ⟨"middot", "\u00B7"⟩, ⟨"middot;", "\u00B7"⟩, ⟨"minus;", "\u2212"⟩, ⟨"minusb;", "\u229F"⟩,
    ⟨"minusd;", "\u2238"⟩, ⟨"minusdu;", "\u2A2A"⟩, ⟨"mlcp;", "\u2ADB"⟩, ⟨"mldr;", "\u2026"⟩,
    ⟨"mnplus;", "\u2213"⟩, ⟨"models;", "\u22A7"⟩, ⟨"mopf;", "𝕞"⟩, ⟨"mp;", "\u2213"⟩,
    ⟨"mscr;", "𝓂"⟩, ⟨"mstpos;", "\u223E"⟩, ⟨"mu;", "\u03BC"⟩, ⟨"multimap;", "\u22B8"⟩,
    ⟨"mumap;", "\u22B8"⟩]

def lowerN : List Named :=
  [⟨"nGg;", "\u22D9\u0338"⟩, ⟨"nGt;", "\u226B\u20D2"⟩, ⟨"nGtv;", "\u226B\u0338"⟩,
    ⟨"nLeftarrow;", "\u21CD"⟩, ⟨"nLeftrightarrow;", "\u21CE"⟩, ⟨"nLl;", "\u22D8\u0338"⟩,
    ⟨"nLt;", "\u226A\u20D2"⟩, ⟨"nLtv;", "\u226A\u0338"⟩, ⟨"nRightarrow;", "\u21CF"⟩,
    ⟨"nVDash;", "\u22AF"⟩, ⟨"nVdash;", "\u22AE"⟩, ⟨"nabla;", "\u2207"⟩, ⟨"nacute;", "\u0144"⟩,
    ⟨"nang;", "\u2220\u20D2"⟩, ⟨"nap;", "\u2249"⟩, ⟨"napE;", "\u2A70\u0338"⟩,
    ⟨"napid;", "\u224B\u0338"⟩, ⟨"napos;", "\u0149"⟩, ⟨"napprox;", "\u2249"⟩, ⟨"natur;", "\u266E"⟩,
    ⟨"natural;", "\u266E"⟩, ⟨"naturals;", "\u2115"⟩, ⟨"nbsp", "\u00A0"⟩, ⟨"nbsp;", "\u00A0"⟩,
    ⟨"nbump;", "\u224E\u0338"⟩, ⟨"nbumpe;", "\u224F\u0338"⟩, ⟨"ncap;", "\u2A43"⟩,
    ⟨"ncaron;", "\u0148"⟩, ⟨"ncedil;", "\u0146"⟩, ⟨"ncong;", "\u2247"⟩,
    ⟨"ncongdot;", "\u2A6D\u0338"⟩, ⟨"ncup;", "\u2A42"⟩, ⟨"ncy;", "\u043D"⟩, ⟨"ndash;", "\u2013"⟩,
    ⟨"ne;", "\u2260"⟩, ⟨"neArr;", "\u21D7"⟩, ⟨"nearhk;", "\u2924"⟩, ⟨"nearr;", "\u2197"⟩,
    ⟨"nearrow;", "\u2197"⟩, ⟨"nedot;", "\u2250\u0338"⟩, ⟨"nequiv;", "\u2262"⟩,
    ⟨"nesear;", "\u2928"⟩, ⟨"nesim;", "\u2242\u0338"⟩, ⟨"nexist;", "\u2204"⟩,
    ⟨"nexists;", "\u2204"⟩, ⟨"nfr;", "𝔫"⟩, ⟨"ngE;", "\u2267\u0338"⟩, ⟨"nge;", "\u2271"⟩,
    ⟨"ngeq;", "\u2271"⟩, ⟨"ngeqq;", "\u2267\u0338"⟩, ⟨"ngeqslant;", "\u2A7E\u0338"⟩,
    ⟨"nges;", "\u2A7E\u0338"⟩, ⟨"ngsim;", "\u2275"⟩, ⟨"ngt;", "\u226F"⟩, ⟨"ngtr;", "\u226F"⟩,
    ⟨"nhArr;", "\u21CE"⟩, ⟨"nharr;", "\u21AE"⟩, ⟨"nhpar;", "\u2AF2"⟩, ⟨"ni;", "\u220B"⟩,
    ⟨"nis;", "\u22FC"⟩, ⟨"nisd;", "\u22FA"⟩, ⟨"niv;", "\u220B"⟩, ⟨"njcy;", "\u045A"⟩,
    ⟨"nlArr;", "\u21CD"⟩, ⟨"nlE;", "\u2266\u0338"⟩, ⟨"nlarr;", "\u219A"⟩, ⟨"nldr;", "\u2025"⟩,
    ⟨"nle;", "\u2270"⟩, ⟨"nleftarrow;", "\u219A"⟩, ⟨"nleftrightarrow;", "\u21AE"⟩,
    ⟨"nleq;", "\u2270"⟩, ⟨"nleqq;", "\u2266\u0338"⟩, ⟨"nleqslant;", "\u2A7D\u0338"⟩,
    ⟨"nles;", "\u2A7D\u0338"⟩, ⟨"nless;", "\u226E"⟩, ⟨"nlsim;", "\u2274"⟩, ⟨"nlt;", "\u226E"⟩,
    ⟨"nltri;", "\u22EA"⟩, ⟨"nltrie;", "\u22EC"⟩, ⟨"nmid;", "\u2224"⟩, ⟨"nopf;", "𝕟"⟩,
    ⟨"not", "\u00AC"⟩, ⟨"not;", "\u00AC"⟩, ⟨"notin;", "\u2209"⟩, ⟨"notinE;", "\u22F9\u0338"⟩,
    ⟨"notindot;", "\u22F5\u0338"⟩, ⟨"notinva;", "\u2209"⟩, ⟨"notinvb;", "\u22F7"⟩,
    ⟨"notinvc;", "\u22F6"⟩, ⟨"notni;", "\u220C"⟩, ⟨"notniva;", "\u220C"⟩, ⟨"notnivb;", "\u22FE"⟩,
    ⟨"notnivc;", "\u22FD"⟩, ⟨"npar;", "\u2226"⟩, ⟨"nparallel;", "\u2226"⟩,
    ⟨"nparsl;", "\u2AFD\u20E5"⟩, ⟨"npart;", "\u2202\u0338"⟩, ⟨"npolint;", "\u2A14"⟩,
    ⟨"npr;", "\u2280"⟩, ⟨"nprcue;", "\u22E0"⟩, ⟨"npre;", "\u2AAF\u0338"⟩, ⟨"nprec;", "\u2280"⟩,
    ⟨"npreceq;", "\u2AAF\u0338"⟩, ⟨"nrArr;", "\u21CF"⟩, ⟨"nrarr;", "\u219B"⟩,
    ⟨"nrarrc;", "\u2933\u0338"⟩, ⟨"nrarrw;", "\u219D\u0338"⟩, ⟨"nrightarrow;", "\u219B"⟩,
    ⟨"nrtri;", "\u22EB"⟩, ⟨"nrtrie;", "\u22ED"⟩, ⟨"nsc;", "\u2281"⟩, ⟨"nsccue;", "\u22E1"⟩,
    ⟨"nsce;", "\u2AB0\u0338"⟩, ⟨"nscr;", "𝓃"⟩, ⟨"nshortmid;", "\u2224"⟩,
    ⟨"nshortparallel;", "\u2226"⟩, ⟨"nsim;", "\u2241"⟩, ⟨"nsime;", "\u2244"⟩,
    ⟨"nsimeq;", "\u2244"⟩, ⟨"nsmid;", "\u2224"⟩, ⟨"nspar;", "\u2226"⟩, ⟨"nsqsube;", "\u22E2"⟩,
    ⟨"nsqsupe;", "\u22E3"⟩, ⟨"nsub;", "\u2284"⟩, ⟨"nsubE;", "\u2AC5\u0338"⟩, ⟨"nsube;", "\u2288"⟩,
    ⟨"nsubset;", "\u2282\u20D2"⟩, ⟨"nsubseteq;", "\u2288"⟩, ⟨"nsubseteqq;", "\u2AC5\u0338"⟩,
    ⟨"nsucc;", "\u2281"⟩, ⟨"nsucceq;", "\u2AB0\u0338"⟩, ⟨"nsup;", "\u2285"⟩,
    ⟨"nsupE;", "\u2AC6\u0338"⟩, ⟨"nsupe;", "\u2289"⟩, ⟨"nsupset;", "\u2283\u20D2"⟩,
    ⟨"nsupseteq;", "\u2289"⟩, ⟨"nsupseteqq;", "\u2AC6\u0338"⟩, ⟨"ntgl;", "\u2279"⟩,
    ⟨"ntilde", "\u00F1"⟩, ⟨"ntilde;", "\u00F1"⟩, ⟨"ntlg;", "\u2278"⟩, ⟨"ntriangleleft;", "\u22EA"⟩,
    ⟨"ntrianglelefteq;", "\u22EC"⟩, ⟨"ntriangleright;", "\u22EB"⟩, ⟨"ntrianglerighteq;", "\u22ED"⟩,
    ⟨"nu;", "\u03BD"⟩, ⟨"num;", "\x23"⟩, ⟨"numero;", "\u2116"⟩, ⟨"numsp;", "\u2007"⟩,
    ⟨"nvDash;", "\u22AD"⟩, ⟨"nvHarr;", "\u2904"⟩, ⟨"nvap;", "\u224D\u20D2"⟩, ⟨"nvdash;", "\u22AC"⟩,
    ⟨"nvge;", "\u2265\u20D2"⟩, ⟨"nvgt;", "\x3e\u20D2"⟩, ⟨"nvinfin;", "\u29DE"⟩,
    ⟨"nvlArr;", "\u2902"⟩, ⟨"nvle;", "\u2264\u20D2"⟩, ⟨"nvlt;", "\x3c\u20D2"⟩,
    ⟨"nvltrie;", "\u22B4\u20D2"⟩, ⟨"nvrArr;", "\u2903"⟩, ⟨"nvrtrie;", "\u22B5\u20D2"⟩,
    ⟨"nvsim;", "\u223C\u20D2"⟩, ⟨"nwArr;", "\u21D6"⟩, ⟨"nwarhk;", "\u2923"⟩, ⟨"nwarr;", "\u2196"⟩,
    ⟨"nwarrow;", "\u2196"⟩, ⟨"nwnear;", "\u2927"⟩]

end HtmlTemplate.Markup.References
