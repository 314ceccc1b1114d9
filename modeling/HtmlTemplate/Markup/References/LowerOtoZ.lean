import HtmlTemplate.Markup.Named

set_option autoImplicit false

namespace HtmlTemplate.Markup.References

def lowerO : List Named :=
  [⟨"oS;", "\u24C8"⟩, ⟨"oacute", "\u00F3"⟩, ⟨"oacute;", "\u00F3"⟩, ⟨"oast;", "\u229B"⟩,
    ⟨"ocir;", "\u229A"⟩, ⟨"ocirc", "\u00F4"⟩, ⟨"ocirc;", "\u00F4"⟩, ⟨"ocy;", "\u043E"⟩,
    ⟨"odash;", "\u229D"⟩, ⟨"odblac;", "\u0151"⟩, ⟨"odiv;", "\u2A38"⟩, ⟨"odot;", "\u2299"⟩,
    ⟨"odsold;", "\u29BC"⟩, ⟨"oelig;", "\u0153"⟩, ⟨"ofcir;", "\u29BF"⟩, ⟨"ofr;", "𝔬"⟩,
    ⟨"ogon;", "\u02DB"⟩, ⟨"ograve", "\u00F2"⟩, ⟨"ograve;", "\u00F2"⟩, ⟨"ogt;", "\u29C1"⟩,
    ⟨"ohbar;", "\u29B5"⟩, ⟨"ohm;", "\u03A9"⟩, ⟨"oint;", "\u222E"⟩, ⟨"olarr;", "\u21BA"⟩,
    ⟨"olcir;", "\u29BE"⟩, ⟨"olcross;", "\u29BB"⟩, ⟨"oline;", "\u203E"⟩, ⟨"olt;", "\u29C0"⟩,
    ⟨"omacr;", "\u014D"⟩, ⟨"omega;", "\u03C9"⟩, ⟨"omicron;", "\u03BF"⟩, ⟨"omid;", "\u29B6"⟩,
    ⟨"ominus;", "\u2296"⟩, ⟨"oopf;", "𝕠"⟩, ⟨"opar;", "\u29B7"⟩, ⟨"operp;", "\u29B9"⟩,
    ⟨"oplus;", "\u2295"⟩, ⟨"or;", "\u2228"⟩, ⟨"orarr;", "\u21BB"⟩, ⟨"ord;", "\u2A5D"⟩,
    ⟨"order;", "\u2134"⟩, ⟨"orderof;", "\u2134"⟩, ⟨"ordf", "\u00AA"⟩, ⟨"ordf;", "\u00AA"⟩,
    ⟨"ordm", "\u00BA"⟩, ⟨"ordm;", "\u00BA"⟩, ⟨"origof;", "\u22B6"⟩, ⟨"oror;", "\u2A56"⟩,
    ⟨"orslope;", "\u2A57"⟩, ⟨"orv;", "\u2A5B"⟩, ⟨"oscr;", "\u2134"⟩, ⟨"oslash", "\u00F8"⟩,
    ⟨"oslash;", "\u00F8"⟩, ⟨"osol;", "\u2298"⟩, ⟨"otilde", "\u00F5"⟩, ⟨"otilde;", "\u00F5"⟩,
    ⟨"otimes;", "\u2297"⟩, ⟨"otimesas;", "\u2A36"⟩, ⟨"ouml", "\u00F6"⟩, ⟨"ouml;", "\u00F6"⟩,
    ⟨"ovbar;", "\u233D"⟩]

def lowerP : List Named :=
  [⟨"par;", "\u2225"⟩, ⟨"para", "\u00B6"⟩, ⟨"para;", "\u00B6"⟩, ⟨"parallel;", "\u2225"⟩,
    ⟨"parsim;", "\u2AF3"⟩, ⟨"parsl;", "\u2AFD"⟩, ⟨"part;", "\u2202"⟩, ⟨"pcy;", "\u043F"⟩,
    ⟨"percnt;", "\x25"⟩, ⟨"period;", "\x2e"⟩, ⟨"permil;", "\u2030"⟩, ⟨"perp;", "\u22A5"⟩,
    ⟨"pertenk;", "\u2031"⟩, ⟨"pfr;", "𝔭"⟩, ⟨"phi;", "\u03C6"⟩, ⟨"phiv;", "\u03D5"⟩,
    ⟨"phmmat;", "\u2133"⟩, ⟨"phone;", "\u260E"⟩, ⟨"pi;", "\u03C0"⟩, ⟨"pitchfork;", "\u22D4"⟩,
    ⟨"piv;", "\u03D6"⟩, ⟨"planck;", "\u210F"⟩, ⟨"planckh;", "\u210E"⟩, ⟨"plankv;", "\u210F"⟩,
    ⟨"plus;", "\x2b"⟩, ⟨"plusacir;", "\u2A23"⟩, ⟨"plusb;", "\u229E"⟩, ⟨"pluscir;", "\u2A22"⟩,
    ⟨"plusdo;", "\u2214"⟩, ⟨"plusdu;", "\u2A25"⟩, ⟨"pluse;", "\u2A72"⟩, ⟨"plusmn", "\u00B1"⟩,
    ⟨"plusmn;", "\u00B1"⟩, ⟨"plussim;", "\u2A26"⟩, ⟨"plustwo;", "\u2A27"⟩, ⟨"pm;", "\u00B1"⟩,
    ⟨"pointint;", "\u2A15"⟩, ⟨"popf;", "𝕡"⟩, ⟨"pound", "\u00A3"⟩, ⟨"pound;", "\u00A3"⟩,
    ⟨"pr;", "\u227A"⟩, ⟨"prE;", "\u2AB3"⟩, ⟨"prap;", "\u2AB7"⟩, ⟨"prcue;", "\u227C"⟩,
    ⟨"pre;", "\u2AAF"⟩, ⟨"prec;", "\u227A"⟩, ⟨"precapprox;", "\u2AB7"⟩, ⟨"preccurlyeq;", "\u227C"⟩,
    ⟨"preceq;", "\u2AAF"⟩, ⟨"precnapprox;", "\u2AB9"⟩, ⟨"precneqq;", "\u2AB5"⟩,
    ⟨"precnsim;", "\u22E8"⟩, ⟨"precsim;", "\u227E"⟩, ⟨"prime;", "\u2032"⟩, ⟨"primes;", "\u2119"⟩,
    ⟨"prnE;", "\u2AB5"⟩, ⟨"prnap;", "\u2AB9"⟩, ⟨"prnsim;", "\u22E8"⟩, ⟨"prod;", "\u220F"⟩,
    ⟨"profalar;", "\u232E"⟩, ⟨"profline;", "\u2312"⟩, ⟨"profsurf;", "\u2313"⟩, ⟨"prop;", "\u221D"⟩,
    ⟨"propto;", "\u221D"⟩, ⟨"prsim;", "\u227E"⟩, ⟨"prurel;", "\u22B0"⟩, ⟨"pscr;", "𝓅"⟩,
    ⟨"psi;", "\u03C8"⟩, ⟨"puncsp;", "\u2008"⟩]

def lowerQ : List Named :=
  [⟨"qfr;", "𝔮"⟩, ⟨"qint;", "\u2A0C"⟩, ⟨"qopf;", "𝕢"⟩, ⟨"qprime;", "\u2057"⟩, ⟨"qscr;", "𝓆"⟩,
    ⟨"quaternions;", "\u210D"⟩, ⟨"quatint;", "\u2A16"⟩, ⟨"quest;", "\x3f"⟩, ⟨"questeq;", "\u225F"⟩,
    ⟨"quot", "\x22"⟩, ⟨"quot;", "\x22"⟩]

def lowerR : List Named :=
  [⟨"rAarr;", "\u21DB"⟩, ⟨"rArr;", "\u21D2"⟩, ⟨"rAtail;", "\u291C"⟩, ⟨"rBarr;", "\u290F"⟩,
    ⟨"rHar;", "\u2964"⟩, ⟨"race;", "\u223D\u0331"⟩, ⟨"racute;", "\u0155"⟩, ⟨"radic;", "\u221A"⟩,
    ⟨"raemptyv;", "\u29B3"⟩, ⟨"rang;", "\u27E9"⟩, ⟨"rangd;", "\u2992"⟩, ⟨"range;", "\u29A5"⟩,
    ⟨"rangle;", "\u27E9"⟩, ⟨"raquo", "\u00BB"⟩, ⟨"raquo;", "\u00BB"⟩, ⟨"rarr;", "\u2192"⟩,
    ⟨"rarrap;", "\u2975"⟩, ⟨"rarrb;", "\u21E5"⟩, ⟨"rarrbfs;", "\u2920"⟩, ⟨"rarrc;", "\u2933"⟩,
    ⟨"rarrfs;", "\u291E"⟩, ⟨"rarrhk;", "\u21AA"⟩, ⟨"rarrlp;", "\u21AC"⟩, ⟨"rarrpl;", "\u2945"⟩,
    ⟨"rarrsim;", "\u2974"⟩, ⟨"rarrtl;", "\u21A3"⟩, ⟨"rarrw;", "\u219D"⟩, ⟨"ratail;", "\u291A"⟩,
    ⟨"ratio;", "\u2236"⟩, ⟨"rationals;", "\u211A"⟩, ⟨"rbarr;", "\u290D"⟩, ⟨"rbbrk;", "\u2773"⟩,
    ⟨"rbrace;", "\x7d"⟩, ⟨"rbrack;", "\x5d"⟩, ⟨"rbrke;", "\u298C"⟩, ⟨"rbrksld;", "\u298E"⟩,
    ⟨"rbrkslu;", "\u2990"⟩, ⟨"rcaron;", "\u0159"⟩, ⟨"rcedil;", "\u0157"⟩, ⟨"rceil;", "\u2309"⟩,
    ⟨"rcub;", "\x7d"⟩, ⟨"rcy;", "\u0440"⟩, ⟨"rdca;", "\u2937"⟩, ⟨"rdldhar;", "\u2969"⟩,
    ⟨"rdquo;", "\u201D"⟩, ⟨"rdquor;", "\u201D"⟩, ⟨"rdsh;", "\u21B3"⟩, ⟨"real;", "\u211C"⟩,
    ⟨"realine;", "\u211B"⟩, ⟨"realpart;", "\u211C"⟩, ⟨"reals;", "\u211D"⟩, ⟨"rect;", "\u25AD"⟩,
    ⟨"reg", "\u00AE"⟩, ⟨"reg;", "\u00AE"⟩, ⟨"rfisht;", "\u297D"⟩, ⟨"rfloor;", "\u230B"⟩,
    ⟨"rfr;", "𝔯"⟩, ⟨"rhard;", "\u21C1"⟩, ⟨"rharu;", "\u21C0"⟩, ⟨"rharul;", "\u296C"⟩,
    ⟨"rho;", "\u03C1"⟩, ⟨"rhov;", "\u03F1"⟩, ⟨"rightarrow;", "\u2192"⟩,
    ⟨"rightarrowtail;", "\u21A3"⟩, ⟨"rightharpoondown;", "\u21C1"⟩, ⟨"rightharpoonup;", "\u21C0"⟩,
    ⟨"rightleftarrows;", "\u21C4"⟩, ⟨"rightleftharpoons;", "\u21CC"⟩,
    ⟨"rightrightarrows;", "\u21C9"⟩, ⟨"rightsquigarrow;", "\u219D"⟩,
    ⟨"rightthreetimes;", "\u22CC"⟩, ⟨"ring;", "\u02DA"⟩, ⟨"risingdotseq;", "\u2253"⟩,
    ⟨"rlarr;", "\u21C4"⟩, ⟨"rlhar;", "\u21CC"⟩, ⟨"rlm;", "\u200F"⟩, ⟨"rmoust;", "\u23B1"⟩,
    ⟨"rmoustache;", "\u23B1"⟩, ⟨"rnmid;", "\u2AEE"⟩, ⟨"roang;", "\u27ED"⟩, ⟨"roarr;", "\u21FE"⟩,
    ⟨"robrk;", "\u27E7"⟩, ⟨"ropar;", "\u2986"⟩, ⟨"ropf;", "𝕣"⟩, ⟨"roplus;", "\u2A2E"⟩,
    ⟨"rotimes;", "\u2A35"⟩, ⟨"rpar;", "\x29"⟩, ⟨"rpargt;", "\u2994"⟩, ⟨"rppolint;", "\u2A12"⟩,
    ⟨"rrarr;", "\u21C9"⟩, ⟨"rsaquo;", "\u203A"⟩, ⟨"rscr;", "𝓇"⟩, ⟨"rsh;", "\u21B1"⟩,
    ⟨"rsqb;", "\x5d"⟩, ⟨"rsquo;", "\u2019"⟩, ⟨"rsquor;", "\u2019"⟩, ⟨"rthree;", "\u22CC"⟩,
    ⟨"rtimes;", "\u22CA"⟩, ⟨"rtri;", "\u25B9"⟩, ⟨"rtrie;", "\u22B5"⟩, ⟨"rtrif;", "\u25B8"⟩,
    ⟨"rtriltri;", "\u29CE"⟩, ⟨"ruluhar;", "\u2968"⟩, ⟨"rx;", "\u211E"⟩]

def lowerS : List Named :=
  [⟨"sacute;", "\u015B"⟩, ⟨"sbquo;", "\u201A"⟩, ⟨"sc;", "\u227B"⟩, ⟨"scE;", "\u2AB4"⟩,
    ⟨"scap;", "\u2AB8"⟩, ⟨"scaron;", "\u0161"⟩, ⟨"sccue;", "\u227D"⟩, ⟨"sce;", "\u2AB0"⟩,
    ⟨"scedil;", "\u015F"⟩, ⟨"scirc;", "\u015D"⟩, ⟨"scnE;", "\u2AB6"⟩, ⟨"scnap;", "\u2ABA"⟩,
    ⟨"scnsim;", "\u22E9"⟩, ⟨"scpolint;", "\u2A13"⟩, ⟨"scsim;", "\u227F"⟩, ⟨"scy;", "\u0441"⟩,
    ⟨"sdot;", "\u22C5"⟩, ⟨"sdotb;", "\u22A1"⟩, ⟨"sdote;", "\u2A66"⟩, ⟨"seArr;", "\u21D8"⟩,
    ⟨"searhk;", "\u2925"⟩, ⟨"searr;", "\u2198"⟩, ⟨"searrow;", "\u2198"⟩, ⟨"sect", "\u00A7"⟩,
    ⟨"sect;", "\u00A7"⟩, ⟨"semi;", "\x3b"⟩, ⟨"seswar;", "\u2929"⟩, ⟨"setminus;", "\u2216"⟩,
    ⟨"setmn;", "\u2216"⟩, ⟨"sext;", "\u2736"⟩, ⟨"sfr;", "𝔰"⟩, ⟨"sfrown;", "\u2322"⟩,
    ⟨"sharp;", "\u266F"⟩, ⟨"shchcy;", "\u0449"⟩, ⟨"shcy;", "\u0448"⟩, ⟨"shortmid;", "\u2223"⟩,
    ⟨"shortparallel;", "\u2225"⟩, ⟨"shy", "\u00AD"⟩, ⟨"shy;", "\u00AD"⟩, ⟨"sigma;", "\u03C3"⟩,
    ⟨"sigmaf;", "\u03C2"⟩, ⟨"sigmav;", "\u03C2"⟩, ⟨"sim;", "\u223C"⟩, ⟨"simdot;", "\u2A6A"⟩,
    ⟨"sime;", "\u2243"⟩, ⟨"simeq;", "\u2243"⟩, ⟨"simg;", "\u2A9E"⟩, ⟨"simgE;", "\u2AA0"⟩,
    ⟨"siml;", "\u2A9D"⟩, ⟨"simlE;", "\u2A9F"⟩, ⟨"simne;", "\u2246"⟩, ⟨"simplus;", "\u2A24"⟩,
    ⟨"simrarr;", "\u2972"⟩, ⟨"slarr;", "\u2190"⟩, ⟨"smallsetminus;", "\u2216"⟩,
    ⟨"smashp;", "\u2A33"⟩, ⟨"smeparsl;", "\u29E4"⟩, ⟨"smid;", "\u2223"⟩, ⟨"smile;", "\u2323"⟩,
    ⟨"smt;", "\u2AAA"⟩, ⟨"smte;", "\u2AAC"⟩, ⟨"smtes;", "\u2AAC\uFE00"⟩, ⟨"softcy;", "\u044C"⟩,
    ⟨"sol;", "\x2f"⟩, ⟨"solb;", "\u29C4"⟩, ⟨"solbar;", "\u233F"⟩, ⟨"sopf;", "𝕤"⟩,
    ⟨"spades;", "\u2660"⟩, ⟨"spadesuit;", "\u2660"⟩, ⟨"spar;", "\u2225"⟩, ⟨"sqcap;", "\u2293"⟩,
    ⟨"sqcaps;", "\u2293\uFE00"⟩, ⟨"sqcup;", "\u2294"⟩, ⟨"sqcups;", "\u2294\uFE00"⟩,
    ⟨"sqsub;", "\u228F"⟩, ⟨"sqsube;", "\u2291"⟩, ⟨"sqsubset;", "\u228F"⟩,
    ⟨"sqsubseteq;", "\u2291"⟩, ⟨"sqsup;", "\u2290"⟩, ⟨"sqsupe;", "\u2292"⟩,
    ⟨"sqsupset;", "\u2290"⟩, ⟨"sqsupseteq;", "\u2292"⟩, ⟨"squ;", "\u25A1"⟩, ⟨"square;", "\u25A1"⟩,
    ⟨"squarf;", "\u25AA"⟩, ⟨"squf;", "\u25AA"⟩, ⟨"srarr;", "\u2192"⟩, ⟨"sscr;", "𝓈"⟩,
    ⟨"ssetmn;", "\u2216"⟩, ⟨"ssmile;", "\u2323"⟩, ⟨"sstarf;", "\u22C6"⟩, ⟨"star;", "\u2606"⟩,
    ⟨"starf;", "\u2605"⟩, ⟨"straightepsilon;", "\u03F5"⟩, ⟨"straightphi;", "\u03D5"⟩,
    ⟨"strns;", "\u00AF"⟩, ⟨"sub;", "\u2282"⟩, ⟨"subE;", "\u2AC5"⟩, ⟨"subdot;", "\u2ABD"⟩,
    ⟨"sube;", "\u2286"⟩, ⟨"subedot;", "\u2AC3"⟩, ⟨"submult;", "\u2AC1"⟩, ⟨"subnE;", "\u2ACB"⟩,
    ⟨"subne;", "\u228A"⟩, ⟨"subplus;", "\u2ABF"⟩, ⟨"subrarr;", "\u2979"⟩, ⟨"subset;", "\u2282"⟩,
    ⟨"subseteq;", "\u2286"⟩, ⟨"subseteqq;", "\u2AC5"⟩, ⟨"subsetneq;", "\u228A"⟩,
    ⟨"subsetneqq;", "\u2ACB"⟩, ⟨"subsim;", "\u2AC7"⟩, ⟨"subsub;", "\u2AD5"⟩, ⟨"subsup;", "\u2AD3"⟩,
    ⟨"succ;", "\u227B"⟩, ⟨"succapprox;", "\u2AB8"⟩, ⟨"succcurlyeq;", "\u227D"⟩,
    ⟨"succeq;", "\u2AB0"⟩, ⟨"succnapprox;", "\u2ABA"⟩, ⟨"succneqq;", "\u2AB6"⟩,
    ⟨"succnsim;", "\u22E9"⟩, ⟨"succsim;", "\u227F"⟩, ⟨"sum;", "\u2211"⟩, ⟨"sung;", "\u266A"⟩,
    ⟨"sup1", "\u00B9"⟩, ⟨"sup1;", "\u00B9"⟩, ⟨"sup2", "\u00B2"⟩, ⟨"sup2;", "\u00B2"⟩,
    ⟨"sup3", "\u00B3"⟩, ⟨"sup3;", "\u00B3"⟩, ⟨"sup;", "\u2283"⟩, ⟨"supE;", "\u2AC6"⟩,
    ⟨"supdot;", "\u2ABE"⟩, ⟨"supdsub;", "\u2AD8"⟩, ⟨"supe;", "\u2287"⟩, ⟨"supedot;", "\u2AC4"⟩,
    ⟨"suphsol;", "\u27C9"⟩, ⟨"suphsub;", "\u2AD7"⟩, ⟨"suplarr;", "\u297B"⟩, ⟨"supmult;", "\u2AC2"⟩,
    ⟨"supnE;", "\u2ACC"⟩, ⟨"supne;", "\u228B"⟩, ⟨"supplus;", "\u2AC0"⟩, ⟨"supset;", "\u2283"⟩,
    ⟨"supseteq;", "\u2287"⟩, ⟨"supseteqq;", "\u2AC6"⟩, ⟨"supsetneq;", "\u228B"⟩,
    ⟨"supsetneqq;", "\u2ACC"⟩, ⟨"supsim;", "\u2AC8"⟩, ⟨"supsub;", "\u2AD4"⟩, ⟨"supsup;", "\u2AD6"⟩,
    ⟨"swArr;", "\u21D9"⟩, ⟨"swarhk;", "\u2926"⟩, ⟨"swarr;", "\u2199"⟩, ⟨"swarrow;", "\u2199"⟩,
    ⟨"swnwar;", "\u292A"⟩, ⟨"szlig", "\u00DF"⟩, ⟨"szlig;", "\u00DF"⟩]

def lowerT : List Named :=
  [⟨"target;", "\u2316"⟩, ⟨"tau;", "\u03C4"⟩, ⟨"tbrk;", "\u23B4"⟩, ⟨"tcaron;", "\u0165"⟩,
    ⟨"tcedil;", "\u0163"⟩, ⟨"tcy;", "\u0442"⟩, ⟨"tdot;", "\u20DB"⟩, ⟨"telrec;", "\u2315"⟩,
    ⟨"tfr;", "𝔱"⟩, ⟨"there4;", "\u2234"⟩, ⟨"therefore;", "\u2234"⟩, ⟨"theta;", "\u03B8"⟩,
    ⟨"thetasym;", "\u03D1"⟩, ⟨"thetav;", "\u03D1"⟩, ⟨"thickapprox;", "\u2248"⟩,
    ⟨"thicksim;", "\u223C"⟩, ⟨"thinsp;", "\u2009"⟩, ⟨"thkap;", "\u2248"⟩, ⟨"thksim;", "\u223C"⟩,
    ⟨"thorn", "\u00FE"⟩, ⟨"thorn;", "\u00FE"⟩, ⟨"tilde;", "\u02DC"⟩, ⟨"times", "\u00D7"⟩,
    ⟨"times;", "\u00D7"⟩, ⟨"timesb;", "\u22A0"⟩, ⟨"timesbar;", "\u2A31"⟩, ⟨"timesd;", "\u2A30"⟩,
    ⟨"tint;", "\u222D"⟩, ⟨"toea;", "\u2928"⟩, ⟨"top;", "\u22A4"⟩, ⟨"topbot;", "\u2336"⟩,
    ⟨"topcir;", "\u2AF1"⟩, ⟨"topf;", "𝕥"⟩, ⟨"topfork;", "\u2ADA"⟩, ⟨"tosa;", "\u2929"⟩,
    ⟨"tprime;", "\u2034"⟩, ⟨"trade;", "\u2122"⟩, ⟨"triangle;", "\u25B5"⟩,
    ⟨"triangledown;", "\u25BF"⟩, ⟨"triangleleft;", "\u25C3"⟩, ⟨"trianglelefteq;", "\u22B4"⟩,
    ⟨"triangleq;", "\u225C"⟩, ⟨"triangleright;", "\u25B9"⟩, ⟨"trianglerighteq;", "\u22B5"⟩,
    ⟨"tridot;", "\u25EC"⟩, ⟨"trie;", "\u225C"⟩, ⟨"triminus;", "\u2A3A"⟩, ⟨"triplus;", "\u2A39"⟩,
    ⟨"trisb;", "\u29CD"⟩, ⟨"tritime;", "\u2A3B"⟩, ⟨"trpezium;", "\u23E2"⟩, ⟨"tscr;", "𝓉"⟩,
    ⟨"tscy;", "\u0446"⟩, ⟨"tshcy;", "\u045B"⟩, ⟨"tstrok;", "\u0167"⟩, ⟨"twixt;", "\u226C"⟩,
    ⟨"twoheadleftarrow;", "\u219E"⟩, ⟨"twoheadrightarrow;", "\u21A0"⟩]

def lowerU : List Named :=
  [⟨"uArr;", "\u21D1"⟩, ⟨"uHar;", "\u2963"⟩, ⟨"uacute", "\u00FA"⟩, ⟨"uacute;", "\u00FA"⟩,
    ⟨"uarr;", "\u2191"⟩, ⟨"ubrcy;", "\u045E"⟩, ⟨"ubreve;", "\u016D"⟩, ⟨"ucirc", "\u00FB"⟩,
    ⟨"ucirc;", "\u00FB"⟩, ⟨"ucy;", "\u0443"⟩, ⟨"udarr;", "\u21C5"⟩, ⟨"udblac;", "\u0171"⟩,
    ⟨"udhar;", "\u296E"⟩, ⟨"ufisht;", "\u297E"⟩, ⟨"ufr;", "𝔲"⟩, ⟨"ugrave", "\u00F9"⟩,
    ⟨"ugrave;", "\u00F9"⟩, ⟨"uharl;", "\u21BF"⟩, ⟨"uharr;", "\u21BE"⟩, ⟨"uhblk;", "\u2580"⟩,
    ⟨"ulcorn;", "\u231C"⟩, ⟨"ulcorner;", "\u231C"⟩, ⟨"ulcrop;", "\u230F"⟩, ⟨"ultri;", "\u25F8"⟩,
    ⟨"umacr;", "\u016B"⟩, ⟨"uml", "\u00A8"⟩, ⟨"uml;", "\u00A8"⟩, ⟨"uogon;", "\u0173"⟩,
    ⟨"uopf;", "𝕦"⟩, ⟨"uparrow;", "\u2191"⟩, ⟨"updownarrow;", "\u2195"⟩,
    ⟨"upharpoonleft;", "\u21BF"⟩, ⟨"upharpoonright;", "\u21BE"⟩, ⟨"uplus;", "\u228E"⟩,
    ⟨"upsi;", "\u03C5"⟩, ⟨"upsih;", "\u03D2"⟩, ⟨"upsilon;", "\u03C5"⟩, ⟨"upuparrows;", "\u21C8"⟩,
    ⟨"urcorn;", "\u231D"⟩, ⟨"urcorner;", "\u231D"⟩, ⟨"urcrop;", "\u230E"⟩, ⟨"uring;", "\u016F"⟩,
    ⟨"urtri;", "\u25F9"⟩, ⟨"uscr;", "𝓊"⟩, ⟨"utdot;", "\u22F0"⟩, ⟨"utilde;", "\u0169"⟩,
    ⟨"utri;", "\u25B5"⟩, ⟨"utrif;", "\u25B4"⟩, ⟨"uuarr;", "\u21C8"⟩, ⟨"uuml", "\u00FC"⟩,
    ⟨"uuml;", "\u00FC"⟩, ⟨"uwangle;", "\u29A7"⟩]

def lowerV : List Named :=
  [⟨"vArr;", "\u21D5"⟩, ⟨"vBar;", "\u2AE8"⟩, ⟨"vBarv;", "\u2AE9"⟩, ⟨"vDash;", "\u22A8"⟩,
    ⟨"vangrt;", "\u299C"⟩, ⟨"varepsilon;", "\u03F5"⟩, ⟨"varkappa;", "\u03F0"⟩,
    ⟨"varnothing;", "\u2205"⟩, ⟨"varphi;", "\u03D5"⟩, ⟨"varpi;", "\u03D6"⟩,
    ⟨"varpropto;", "\u221D"⟩, ⟨"varr;", "\u2195"⟩, ⟨"varrho;", "\u03F1"⟩, ⟨"varsigma;", "\u03C2"⟩,
    ⟨"varsubsetneq;", "\u228A\uFE00"⟩, ⟨"varsubsetneqq;", "\u2ACB\uFE00"⟩,
    ⟨"varsupsetneq;", "\u228B\uFE00"⟩, ⟨"varsupsetneqq;", "\u2ACC\uFE00"⟩, ⟨"vartheta;", "\u03D1"⟩,
    ⟨"vartriangleleft;", "\u22B2"⟩, ⟨"vartriangleright;", "\u22B3"⟩, ⟨"vcy;", "\u0432"⟩,
    ⟨"vdash;", "\u22A2"⟩, ⟨"vee;", "\u2228"⟩, ⟨"veebar;", "\u22BB"⟩, ⟨"veeeq;", "\u225A"⟩,
    ⟨"vellip;", "\u22EE"⟩, ⟨"verbar;", "\x7c"⟩, ⟨"vert;", "\x7c"⟩, ⟨"vfr;", "𝔳"⟩,
    ⟨"vltri;", "\u22B2"⟩, ⟨"vnsub;", "\u2282\u20D2"⟩, ⟨"vnsup;", "\u2283\u20D2"⟩, ⟨"vopf;", "𝕧"⟩,
    ⟨"vprop;", "\u221D"⟩, ⟨"vrtri;", "\u22B3"⟩, ⟨"vscr;", "𝓋"⟩, ⟨"vsubnE;", "\u2ACB\uFE00"⟩,
    ⟨"vsubne;", "\u228A\uFE00"⟩, ⟨"vsupnE;", "\u2ACC\uFE00"⟩, ⟨"vsupne;", "\u228B\uFE00"⟩,
    ⟨"vzigzag;", "\u299A"⟩]

def lowerW : List Named :=
  [⟨"wcirc;", "\u0175"⟩, ⟨"wedbar;", "\u2A5F"⟩, ⟨"wedge;", "\u2227"⟩, ⟨"wedgeq;", "\u2259"⟩,
    ⟨"weierp;", "\u2118"⟩, ⟨"wfr;", "𝔴"⟩, ⟨"wopf;", "𝕨"⟩, ⟨"wp;", "\u2118"⟩, ⟨"wr;", "\u2240"⟩,
    ⟨"wreath;", "\u2240"⟩, ⟨"wscr;", "𝓌"⟩]

def lowerX : List Named :=
  [⟨"xcap;", "\u22C2"⟩, ⟨"xcirc;", "\u25EF"⟩, ⟨"xcup;", "\u22C3"⟩, ⟨"xdtri;", "\u25BD"⟩,
    ⟨"xfr;", "𝔵"⟩, ⟨"xhArr;", "\u27FA"⟩, ⟨"xharr;", "\u27F7"⟩, ⟨"xi;", "\u03BE"⟩,
    ⟨"xlArr;", "\u27F8"⟩, ⟨"xlarr;", "\u27F5"⟩, ⟨"xmap;", "\u27FC"⟩, ⟨"xnis;", "\u22FB"⟩,
    ⟨"xodot;", "\u2A00"⟩, ⟨"xopf;", "𝕩"⟩, ⟨"xoplus;", "\u2A01"⟩, ⟨"xotime;", "\u2A02"⟩,
    ⟨"xrArr;", "\u27F9"⟩, ⟨"xrarr;", "\u27F6"⟩, ⟨"xscr;", "𝓍"⟩, ⟨"xsqcup;", "\u2A06"⟩,
    ⟨"xuplus;", "\u2A04"⟩, ⟨"xutri;", "\u25B3"⟩, ⟨"xvee;", "\u22C1"⟩, ⟨"xwedge;", "\u22C0"⟩]

def lowerY : List Named :=
  [⟨"yacute", "\u00FD"⟩, ⟨"yacute;", "\u00FD"⟩, ⟨"yacy;", "\u044F"⟩, ⟨"ycirc;", "\u0177"⟩,
    ⟨"ycy;", "\u044B"⟩, ⟨"yen", "\u00A5"⟩, ⟨"yen;", "\u00A5"⟩, ⟨"yfr;", "𝔶"⟩, ⟨"yicy;", "\u0457"⟩,
    ⟨"yopf;", "𝕪"⟩, ⟨"yscr;", "𝓎"⟩, ⟨"yucy;", "\u044E"⟩, ⟨"yuml", "\u00FF"⟩, ⟨"yuml;", "\u00FF"⟩]

def lowerZ : List Named :=
  [⟨"zacute;", "\u017A"⟩, ⟨"zcaron;", "\u017E"⟩, ⟨"zcy;", "\u0437"⟩, ⟨"zdot;", "\u017C"⟩,
    ⟨"zeetrf;", "\u2128"⟩, ⟨"zeta;", "\u03B6"⟩, ⟨"zfr;", "𝔷"⟩, ⟨"zhcy;", "\u0436"⟩,
    ⟨"zigrarr;", "\u21DD"⟩, ⟨"zopf;", "𝕫"⟩, ⟨"zscr;", "𝓏"⟩, ⟨"zwj;", "\u200D"⟩,
    ⟨"zwnj;", "\u200C"⟩]

end HtmlTemplate.Markup.References
