import HtmlTemplate.Markup.Named

/-!
The names of character references that begin with a to g, with the text each stands for. The older
names are also listed without the semicolon.
-/

set_option autoImplicit false

namespace HtmlTemplate.Markup.References

def lowerA : List Named :=
  [⟨"aacute", "\u00E1"⟩, ⟨"aacute;", "\u00E1"⟩, ⟨"abreve;", "\u0103"⟩, ⟨"ac;", "\u223E"⟩,
    ⟨"acE;", "\u223E\u0333"⟩, ⟨"acd;", "\u223F"⟩, ⟨"acirc", "\u00E2"⟩, ⟨"acirc;", "\u00E2"⟩,
    ⟨"acute", "\u00B4"⟩, ⟨"acute;", "\u00B4"⟩, ⟨"acy;", "\u0430"⟩, ⟨"aelig", "\u00E6"⟩,
    ⟨"aelig;", "\u00E6"⟩, ⟨"af;", "\u2061"⟩, ⟨"afr;", "𝔞"⟩, ⟨"agrave", "\u00E0"⟩,
    ⟨"agrave;", "\u00E0"⟩, ⟨"alefsym;", "\u2135"⟩, ⟨"aleph;", "\u2135"⟩, ⟨"alpha;", "\u03B1"⟩,
    ⟨"amacr;", "\u0101"⟩, ⟨"amalg;", "\u2A3F"⟩, ⟨"amp", "\x26"⟩, ⟨"amp;", "\x26"⟩,
    ⟨"and;", "\u2227"⟩, ⟨"andand;", "\u2A55"⟩, ⟨"andd;", "\u2A5C"⟩, ⟨"andslope;", "\u2A58"⟩,
    ⟨"andv;", "\u2A5A"⟩, ⟨"ang;", "\u2220"⟩, ⟨"ange;", "\u29A4"⟩, ⟨"angle;", "\u2220"⟩,
    ⟨"angmsd;", "\u2221"⟩, ⟨"angmsdaa;", "\u29A8"⟩, ⟨"angmsdab;", "\u29A9"⟩,
    ⟨"angmsdac;", "\u29AA"⟩, ⟨"angmsdad;", "\u29AB"⟩, ⟨"angmsdae;", "\u29AC"⟩,
    ⟨"angmsdaf;", "\u29AD"⟩, ⟨"angmsdag;", "\u29AE"⟩, ⟨"angmsdah;", "\u29AF"⟩,
    ⟨"angrt;", "\u221F"⟩, ⟨"angrtvb;", "\u22BE"⟩, ⟨"angrtvbd;", "\u299D"⟩, ⟨"angsph;", "\u2222"⟩,
    ⟨"angst;", "\u00C5"⟩, ⟨"angzarr;", "\u237C"⟩, ⟨"aogon;", "\u0105"⟩, ⟨"aopf;", "𝕒"⟩,
    ⟨"ap;", "\u2248"⟩, ⟨"apE;", "\u2A70"⟩, ⟨"apacir;", "\u2A6F"⟩, ⟨"ape;", "\u224A"⟩,
    ⟨"apid;", "\u224B"⟩, ⟨"apos;", "\x27"⟩, ⟨"approx;", "\u2248"⟩, ⟨"approxeq;", "\u224A"⟩,
    ⟨"aring", "\u00E5"⟩, ⟨"aring;", "\u00E5"⟩, ⟨"ascr;", "𝒶"⟩, ⟨"ast;", "\x2a"⟩,
    ⟨"asymp;", "\u2248"⟩, ⟨"asympeq;", "\u224D"⟩, ⟨"atilde", "\u00E3"⟩, ⟨"atilde;", "\u00E3"⟩,
    ⟨"auml", "\u00E4"⟩, ⟨"auml;", "\u00E4"⟩, ⟨"awconint;", "\u2233"⟩, ⟨"awint;", "\u2A11"⟩]

def lowerB : List Named :=
  [⟨"bNot;", "\u2AED"⟩, ⟨"backcong;", "\u224C"⟩, ⟨"backepsilon;", "\u03F6"⟩,
    ⟨"backprime;", "\u2035"⟩, ⟨"backsim;", "\u223D"⟩, ⟨"backsimeq;", "\u22CD"⟩,
    ⟨"barvee;", "\u22BD"⟩, ⟨"barwed;", "\u2305"⟩, ⟨"barwedge;", "\u2305"⟩, ⟨"bbrk;", "\u23B5"⟩,
    ⟨"bbrktbrk;", "\u23B6"⟩, ⟨"bcong;", "\u224C"⟩, ⟨"bcy;", "\u0431"⟩, ⟨"bdquo;", "\u201E"⟩,
    ⟨"becaus;", "\u2235"⟩, ⟨"because;", "\u2235"⟩, ⟨"bemptyv;", "\u29B0"⟩, ⟨"bepsi;", "\u03F6"⟩,
    ⟨"bernou;", "\u212C"⟩, ⟨"beta;", "\u03B2"⟩, ⟨"beth;", "\u2136"⟩, ⟨"between;", "\u226C"⟩,
    ⟨"bfr;", "𝔟"⟩, ⟨"bigcap;", "\u22C2"⟩, ⟨"bigcirc;", "\u25EF"⟩, ⟨"bigcup;", "\u22C3"⟩,
    ⟨"bigodot;", "\u2A00"⟩, ⟨"bigoplus;", "\u2A01"⟩, ⟨"bigotimes;", "\u2A02"⟩,
    ⟨"bigsqcup;", "\u2A06"⟩, ⟨"bigstar;", "\u2605"⟩, ⟨"bigtriangledown;", "\u25BD"⟩,
    ⟨"bigtriangleup;", "\u25B3"⟩, ⟨"biguplus;", "\u2A04"⟩, ⟨"bigvee;", "\u22C1"⟩,
    ⟨"bigwedge;", "\u22C0"⟩, ⟨"bkarow;", "\u290D"⟩, ⟨"blacklozenge;", "\u29EB"⟩,
    ⟨"blacksquare;", "\u25AA"⟩, ⟨"blacktriangle;", "\u25B4"⟩, ⟨"blacktriangledown;", "\u25BE"⟩,
    ⟨"blacktriangleleft;", "\u25C2"⟩, ⟨"blacktriangleright;", "\u25B8"⟩, ⟨"blank;", "\u2423"⟩,
    ⟨"blk12;", "\u2592"⟩, ⟨"blk14;", "\u2591"⟩, ⟨"blk34;", "\u2593"⟩, ⟨"block;", "\u2588"⟩,
    ⟨"bne;", "\x3d\u20E5"⟩, ⟨"bnequiv;", "\u2261\u20E5"⟩, ⟨"bnot;", "\u2310"⟩, ⟨"bopf;", "𝕓"⟩,
    ⟨"bot;", "\u22A5"⟩, ⟨"bottom;", "\u22A5"⟩, ⟨"bowtie;", "\u22C8"⟩, ⟨"boxDL;", "\u2557"⟩,
    ⟨"boxDR;", "\u2554"⟩, ⟨"boxDl;", "\u2556"⟩, ⟨"boxDr;", "\u2553"⟩, ⟨"boxH;", "\u2550"⟩,
    ⟨"boxHD;", "\u2566"⟩, ⟨"boxHU;", "\u2569"⟩, ⟨"boxHd;", "\u2564"⟩, ⟨"boxHu;", "\u2567"⟩,
    ⟨"boxUL;", "\u255D"⟩, ⟨"boxUR;", "\u255A"⟩, ⟨"boxUl;", "\u255C"⟩, ⟨"boxUr;", "\u2559"⟩,
    ⟨"boxV;", "\u2551"⟩, ⟨"boxVH;", "\u256C"⟩, ⟨"boxVL;", "\u2563"⟩, ⟨"boxVR;", "\u2560"⟩,
    ⟨"boxVh;", "\u256B"⟩, ⟨"boxVl;", "\u2562"⟩, ⟨"boxVr;", "\u255F"⟩, ⟨"boxbox;", "\u29C9"⟩,
    ⟨"boxdL;", "\u2555"⟩, ⟨"boxdR;", "\u2552"⟩, ⟨"boxdl;", "\u2510"⟩, ⟨"boxdr;", "\u250C"⟩,
    ⟨"boxh;", "\u2500"⟩, ⟨"boxhD;", "\u2565"⟩, ⟨"boxhU;", "\u2568"⟩, ⟨"boxhd;", "\u252C"⟩,
    ⟨"boxhu;", "\u2534"⟩, ⟨"boxminus;", "\u229F"⟩, ⟨"boxplus;", "\u229E"⟩, ⟨"boxtimes;", "\u22A0"⟩,
    ⟨"boxuL;", "\u255B"⟩, ⟨"boxuR;", "\u2558"⟩, ⟨"boxul;", "\u2518"⟩, ⟨"boxur;", "\u2514"⟩,
    ⟨"boxv;", "\u2502"⟩, ⟨"boxvH;", "\u256A"⟩, ⟨"boxvL;", "\u2561"⟩, ⟨"boxvR;", "\u255E"⟩,
    ⟨"boxvh;", "\u253C"⟩, ⟨"boxvl;", "\u2524"⟩, ⟨"boxvr;", "\u251C"⟩, ⟨"bprime;", "\u2035"⟩,
    ⟨"breve;", "\u02D8"⟩, ⟨"brvbar", "\u00A6"⟩, ⟨"brvbar;", "\u00A6"⟩, ⟨"bscr;", "𝒷"⟩,
    ⟨"bsemi;", "\u204F"⟩, ⟨"bsim;", "\u223D"⟩, ⟨"bsime;", "\u22CD"⟩, ⟨"bsol;", "\x5c"⟩,
    ⟨"bsolb;", "\u29C5"⟩, ⟨"bsolhsub;", "\u27C8"⟩, ⟨"bull;", "\u2022"⟩, ⟨"bullet;", "\u2022"⟩,
    ⟨"bump;", "\u224E"⟩, ⟨"bumpE;", "\u2AAE"⟩, ⟨"bumpe;", "\u224F"⟩, ⟨"bumpeq;", "\u224F"⟩]

def lowerC : List Named :=
  [⟨"cacute;", "\u0107"⟩, ⟨"cap;", "\u2229"⟩, ⟨"capand;", "\u2A44"⟩, ⟨"capbrcup;", "\u2A49"⟩,
    ⟨"capcap;", "\u2A4B"⟩, ⟨"capcup;", "\u2A47"⟩, ⟨"capdot;", "\u2A40"⟩, ⟨"caps;", "\u2229\uFE00"⟩,
    ⟨"caret;", "\u2041"⟩, ⟨"caron;", "\u02C7"⟩, ⟨"ccaps;", "\u2A4D"⟩, ⟨"ccaron;", "\u010D"⟩,
    ⟨"ccedil", "\u00E7"⟩, ⟨"ccedil;", "\u00E7"⟩, ⟨"ccirc;", "\u0109"⟩, ⟨"ccups;", "\u2A4C"⟩,
    ⟨"ccupssm;", "\u2A50"⟩, ⟨"cdot;", "\u010B"⟩, ⟨"cedil", "\u00B8"⟩, ⟨"cedil;", "\u00B8"⟩,
    ⟨"cemptyv;", "\u29B2"⟩, ⟨"cent", "\u00A2"⟩, ⟨"cent;", "\u00A2"⟩, ⟨"centerdot;", "\u00B7"⟩,
    ⟨"cfr;", "𝔠"⟩, ⟨"chcy;", "\u0447"⟩, ⟨"check;", "\u2713"⟩, ⟨"checkmark;", "\u2713"⟩,
    ⟨"chi;", "\u03C7"⟩, ⟨"cir;", "\u25CB"⟩, ⟨"cirE;", "\u29C3"⟩, ⟨"circ;", "\u02C6"⟩,
    ⟨"circeq;", "\u2257"⟩, ⟨"circlearrowleft;", "\u21BA"⟩, ⟨"circlearrowright;", "\u21BB"⟩,
    ⟨"circledR;", "\u00AE"⟩, ⟨"circledS;", "\u24C8"⟩, ⟨"circledast;", "\u229B"⟩,
    ⟨"circledcirc;", "\u229A"⟩, ⟨"circleddash;", "\u229D"⟩, ⟨"cire;", "\u2257"⟩,
    ⟨"cirfnint;", "\u2A10"⟩, ⟨"cirmid;", "\u2AEF"⟩, ⟨"cirscir;", "\u29C2"⟩, ⟨"clubs;", "\u2663"⟩,
    ⟨"clubsuit;", "\u2663"⟩, ⟨"colon;", "\x3a"⟩, ⟨"colone;", "\u2254"⟩, ⟨"coloneq;", "\u2254"⟩,
    ⟨"comma;", "\x2c"⟩, ⟨"commat;", "\x40"⟩, ⟨"comp;", "\u2201"⟩, ⟨"compfn;", "\u2218"⟩,
    ⟨"complement;", "\u2201"⟩, ⟨"complexes;", "\u2102"⟩, ⟨"cong;", "\u2245"⟩,
    ⟨"congdot;", "\u2A6D"⟩, ⟨"conint;", "\u222E"⟩, ⟨"copf;", "𝕔"⟩, ⟨"coprod;", "\u2210"⟩,
    ⟨"copy", "\u00A9"⟩, ⟨"copy;", "\u00A9"⟩, ⟨"copysr;", "\u2117"⟩, ⟨"crarr;", "\u21B5"⟩,
    ⟨"cross;", "\u2717"⟩, ⟨"cscr;", "𝒸"⟩, ⟨"csub;", "\u2ACF"⟩, ⟨"csube;", "\u2AD1"⟩,
    ⟨"csup;", "\u2AD0"⟩, ⟨"csupe;", "\u2AD2"⟩, ⟨"ctdot;", "\u22EF"⟩, ⟨"cudarrl;", "\u2938"⟩,
    ⟨"cudarrr;", "\u2935"⟩, ⟨"cuepr;", "\u22DE"⟩, ⟨"cuesc;", "\u22DF"⟩, ⟨"cularr;", "\u21B6"⟩,
    ⟨"cularrp;", "\u293D"⟩, ⟨"cup;", "\u222A"⟩, ⟨"cupbrcap;", "\u2A48"⟩, ⟨"cupcap;", "\u2A46"⟩,
    ⟨"cupcup;", "\u2A4A"⟩, ⟨"cupdot;", "\u228D"⟩, ⟨"cupor;", "\u2A45"⟩, ⟨"cups;", "\u222A\uFE00"⟩,
    ⟨"curarr;", "\u21B7"⟩, ⟨"curarrm;", "\u293C"⟩, ⟨"curlyeqprec;", "\u22DE"⟩,
    ⟨"curlyeqsucc;", "\u22DF"⟩, ⟨"curlyvee;", "\u22CE"⟩, ⟨"curlywedge;", "\u22CF"⟩,
    ⟨"curren", "\u00A4"⟩, ⟨"curren;", "\u00A4"⟩, ⟨"curvearrowleft;", "\u21B6"⟩,
    ⟨"curvearrowright;", "\u21B7"⟩, ⟨"cuvee;", "\u22CE"⟩, ⟨"cuwed;", "\u22CF"⟩,
    ⟨"cwconint;", "\u2232"⟩, ⟨"cwint;", "\u2231"⟩, ⟨"cylcty;", "\u232D"⟩]

def lowerD : List Named :=
  [⟨"dArr;", "\u21D3"⟩, ⟨"dHar;", "\u2965"⟩, ⟨"dagger;", "\u2020"⟩, ⟨"daleth;", "\u2138"⟩,
    ⟨"darr;", "\u2193"⟩, ⟨"dash;", "\u2010"⟩, ⟨"dashv;", "\u22A3"⟩, ⟨"dbkarow;", "\u290F"⟩,
    ⟨"dblac;", "\u02DD"⟩, ⟨"dcaron;", "\u010F"⟩, ⟨"dcy;", "\u0434"⟩, ⟨"dd;", "\u2146"⟩,
    ⟨"ddagger;", "\u2021"⟩, ⟨"ddarr;", "\u21CA"⟩, ⟨"ddotseq;", "\u2A77"⟩, ⟨"deg", "\u00B0"⟩,
    ⟨"deg;", "\u00B0"⟩, ⟨"delta;", "\u03B4"⟩, ⟨"demptyv;", "\u29B1"⟩, ⟨"dfisht;", "\u297F"⟩,
    ⟨"dfr;", "𝔡"⟩, ⟨"dharl;", "\u21C3"⟩, ⟨"dharr;", "\u21C2"⟩, ⟨"diam;", "\u22C4"⟩,
    ⟨"diamond;", "\u22C4"⟩, ⟨"diamondsuit;", "\u2666"⟩, ⟨"diams;", "\u2666"⟩, ⟨"die;", "\u00A8"⟩,
    ⟨"digamma;", "\u03DD"⟩, ⟨"disin;", "\u22F2"⟩, ⟨"div;", "\u00F7"⟩, ⟨"divide", "\u00F7"⟩,
    ⟨"divide;", "\u00F7"⟩, ⟨"divideontimes;", "\u22C7"⟩, ⟨"divonx;", "\u22C7"⟩,
    ⟨"djcy;", "\u0452"⟩, ⟨"dlcorn;", "\u231E"⟩, ⟨"dlcrop;", "\u230D"⟩, ⟨"dollar;", "\x24"⟩,
    ⟨"dopf;", "𝕕"⟩, ⟨"dot;", "\u02D9"⟩, ⟨"doteq;", "\u2250"⟩, ⟨"doteqdot;", "\u2251"⟩,
    ⟨"dotminus;", "\u2238"⟩, ⟨"dotplus;", "\u2214"⟩, ⟨"dotsquare;", "\u22A1"⟩,
    ⟨"doublebarwedge;", "\u2306"⟩, ⟨"downarrow;", "\u2193"⟩, ⟨"downdownarrows;", "\u21CA"⟩,
    ⟨"downharpoonleft;", "\u21C3"⟩, ⟨"downharpoonright;", "\u21C2"⟩, ⟨"drbkarow;", "\u2910"⟩,
    ⟨"drcorn;", "\u231F"⟩, ⟨"drcrop;", "\u230C"⟩, ⟨"dscr;", "𝒹"⟩, ⟨"dscy;", "\u0455"⟩,
    ⟨"dsol;", "\u29F6"⟩, ⟨"dstrok;", "\u0111"⟩, ⟨"dtdot;", "\u22F1"⟩, ⟨"dtri;", "\u25BF"⟩,
    ⟨"dtrif;", "\u25BE"⟩, ⟨"duarr;", "\u21F5"⟩, ⟨"duhar;", "\u296F"⟩, ⟨"dwangle;", "\u29A6"⟩,
    ⟨"dzcy;", "\u045F"⟩, ⟨"dzigrarr;", "\u27FF"⟩]

def lowerE : List Named :=
  [⟨"eDDot;", "\u2A77"⟩, ⟨"eDot;", "\u2251"⟩, ⟨"eacute", "\u00E9"⟩, ⟨"eacute;", "\u00E9"⟩,
    ⟨"easter;", "\u2A6E"⟩, ⟨"ecaron;", "\u011B"⟩, ⟨"ecir;", "\u2256"⟩, ⟨"ecirc", "\u00EA"⟩,
    ⟨"ecirc;", "\u00EA"⟩, ⟨"ecolon;", "\u2255"⟩, ⟨"ecy;", "\u044D"⟩, ⟨"edot;", "\u0117"⟩,
    ⟨"ee;", "\u2147"⟩, ⟨"efDot;", "\u2252"⟩, ⟨"efr;", "𝔢"⟩, ⟨"eg;", "\u2A9A"⟩,
    ⟨"egrave", "\u00E8"⟩, ⟨"egrave;", "\u00E8"⟩, ⟨"egs;", "\u2A96"⟩, ⟨"egsdot;", "\u2A98"⟩,
    ⟨"el;", "\u2A99"⟩, ⟨"elinters;", "\u23E7"⟩, ⟨"ell;", "\u2113"⟩, ⟨"els;", "\u2A95"⟩,
    ⟨"elsdot;", "\u2A97"⟩, ⟨"emacr;", "\u0113"⟩, ⟨"empty;", "\u2205"⟩, ⟨"emptyset;", "\u2205"⟩,
    ⟨"emptyv;", "\u2205"⟩, ⟨"emsp13;", "\u2004"⟩, ⟨"emsp14;", "\u2005"⟩, ⟨"emsp;", "\u2003"⟩,
    ⟨"eng;", "\u014B"⟩, ⟨"ensp;", "\u2002"⟩, ⟨"eogon;", "\u0119"⟩, ⟨"eopf;", "𝕖"⟩,
    ⟨"epar;", "\u22D5"⟩, ⟨"eparsl;", "\u29E3"⟩, ⟨"eplus;", "\u2A71"⟩, ⟨"epsi;", "\u03B5"⟩,
    ⟨"epsilon;", "\u03B5"⟩, ⟨"epsiv;", "\u03F5"⟩, ⟨"eqcirc;", "\u2256"⟩, ⟨"eqcolon;", "\u2255"⟩,
    ⟨"eqsim;", "\u2242"⟩, ⟨"eqslantgtr;", "\u2A96"⟩, ⟨"eqslantless;", "\u2A95"⟩,
    ⟨"equals;", "\x3d"⟩, ⟨"equest;", "\u225F"⟩, ⟨"equiv;", "\u2261"⟩, ⟨"equivDD;", "\u2A78"⟩,
    ⟨"eqvparsl;", "\u29E5"⟩, ⟨"erDot;", "\u2253"⟩, ⟨"erarr;", "\u2971"⟩, ⟨"escr;", "\u212F"⟩,
    ⟨"esdot;", "\u2250"⟩, ⟨"esim;", "\u2242"⟩, ⟨"eta;", "\u03B7"⟩, ⟨"eth", "\u00F0"⟩,
    ⟨"eth;", "\u00F0"⟩, ⟨"euml", "\u00EB"⟩, ⟨"euml;", "\u00EB"⟩, ⟨"euro;", "\u20AC"⟩,
    ⟨"excl;", "\x21"⟩, ⟨"exist;", "\u2203"⟩, ⟨"expectation;", "\u2130"⟩,
    ⟨"exponentiale;", "\u2147"⟩]

def lowerF : List Named :=
  [⟨"fallingdotseq;", "\u2252"⟩, ⟨"fcy;", "\u0444"⟩, ⟨"female;", "\u2640"⟩, ⟨"ffilig;", "\uFB03"⟩,
    ⟨"fflig;", "\uFB00"⟩, ⟨"ffllig;", "\uFB04"⟩, ⟨"ffr;", "𝔣"⟩, ⟨"filig;", "\uFB01"⟩,
    ⟨"fjlig;", "fj"⟩, ⟨"flat;", "\u266D"⟩, ⟨"fllig;", "\uFB02"⟩, ⟨"fltns;", "\u25B1"⟩,
    ⟨"fnof;", "\u0192"⟩, ⟨"fopf;", "𝕗"⟩, ⟨"forall;", "\u2200"⟩, ⟨"fork;", "\u22D4"⟩,
    ⟨"forkv;", "\u2AD9"⟩, ⟨"fpartint;", "\u2A0D"⟩, ⟨"frac12", "\u00BD"⟩, ⟨"frac12;", "\u00BD"⟩,
    ⟨"frac13;", "\u2153"⟩, ⟨"frac14", "\u00BC"⟩, ⟨"frac14;", "\u00BC"⟩, ⟨"frac15;", "\u2155"⟩,
    ⟨"frac16;", "\u2159"⟩, ⟨"frac18;", "\u215B"⟩, ⟨"frac23;", "\u2154"⟩, ⟨"frac25;", "\u2156"⟩,
    ⟨"frac34", "\u00BE"⟩, ⟨"frac34;", "\u00BE"⟩, ⟨"frac35;", "\u2157"⟩, ⟨"frac38;", "\u215C"⟩,
    ⟨"frac45;", "\u2158"⟩, ⟨"frac56;", "\u215A"⟩, ⟨"frac58;", "\u215D"⟩, ⟨"frac78;", "\u215E"⟩,
    ⟨"frasl;", "\u2044"⟩, ⟨"frown;", "\u2322"⟩, ⟨"fscr;", "𝒻"⟩]

def lowerG : List Named :=
  [⟨"gE;", "\u2267"⟩, ⟨"gEl;", "\u2A8C"⟩, ⟨"gacute;", "\u01F5"⟩, ⟨"gamma;", "\u03B3"⟩,
    ⟨"gammad;", "\u03DD"⟩, ⟨"gap;", "\u2A86"⟩, ⟨"gbreve;", "\u011F"⟩, ⟨"gcirc;", "\u011D"⟩,
    ⟨"gcy;", "\u0433"⟩, ⟨"gdot;", "\u0121"⟩, ⟨"ge;", "\u2265"⟩, ⟨"gel;", "\u22DB"⟩,
    ⟨"geq;", "\u2265"⟩, ⟨"geqq;", "\u2267"⟩, ⟨"geqslant;", "\u2A7E"⟩, ⟨"ges;", "\u2A7E"⟩,
    ⟨"gescc;", "\u2AA9"⟩, ⟨"gesdot;", "\u2A80"⟩, ⟨"gesdoto;", "\u2A82"⟩, ⟨"gesdotol;", "\u2A84"⟩,
    ⟨"gesl;", "\u22DB\uFE00"⟩, ⟨"gesles;", "\u2A94"⟩, ⟨"gfr;", "𝔤"⟩, ⟨"gg;", "\u226B"⟩,
    ⟨"ggg;", "\u22D9"⟩, ⟨"gimel;", "\u2137"⟩, ⟨"gjcy;", "\u0453"⟩, ⟨"gl;", "\u2277"⟩,
    ⟨"glE;", "\u2A92"⟩, ⟨"gla;", "\u2AA5"⟩, ⟨"glj;", "\u2AA4"⟩, ⟨"gnE;", "\u2269"⟩,
    ⟨"gnap;", "\u2A8A"⟩, ⟨"gnapprox;", "\u2A8A"⟩, ⟨"gne;", "\u2A88"⟩, ⟨"gneq;", "\u2A88"⟩,
    ⟨"gneqq;", "\u2269"⟩, ⟨"gnsim;", "\u22E7"⟩, ⟨"gopf;", "𝕘"⟩, ⟨"grave;", "\x60"⟩,
    ⟨"gscr;", "\u210A"⟩, ⟨"gsim;", "\u2273"⟩, ⟨"gsime;", "\u2A8E"⟩, ⟨"gsiml;", "\u2A90"⟩,
    ⟨"gt", "\x3e"⟩, ⟨"gt;", "\x3e"⟩, ⟨"gtcc;", "\u2AA7"⟩, ⟨"gtcir;", "\u2A7A"⟩,
    ⟨"gtdot;", "\u22D7"⟩, ⟨"gtlPar;", "\u2995"⟩, ⟨"gtquest;", "\u2A7C"⟩, ⟨"gtrapprox;", "\u2A86"⟩,
    ⟨"gtrarr;", "\u2978"⟩, ⟨"gtrdot;", "\u22D7"⟩, ⟨"gtreqless;", "\u22DB"⟩,
    ⟨"gtreqqless;", "\u2A8C"⟩, ⟨"gtrless;", "\u2277"⟩, ⟨"gtrsim;", "\u2273"⟩,
    ⟨"gvertneqq;", "\u2269\uFE00"⟩, ⟨"gvnE;", "\u2269\uFE00"⟩]

end HtmlTemplate.Markup.References
