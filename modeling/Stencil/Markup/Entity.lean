/-
Named character references as the markup reader resolves them, without their semicolons.
Names are case-sensitive. The table is the one the reader was built with: an early list of
HTML names whose code points were copied two hexadecimal digits at a time, so a code point
spelled with three or five digits loses its last one: `Abreve` (U+0102) stands for U+0010
and `Afr` (U+1D504) for U+1D50. Names that now stand for two characters are absent, and so
unresolved, except `race`, which stands for U+29DA; a few Greek variants and letterlike
symbols keep the values of that early list.
The table is split by the first letter of the name.
-/
namespace Stencil.Markup.Entity

/-- The names that start with A. -/
def upperA : List (String × String) := [
  ("AElig", "\u00C6"),
  ("AMP", "\x26"),
  ("Aacute", "\u00C1"),
  ("Abreve", "\x10"),
  ("Acirc", "\u00C2"),
  ("Acy", "A"),
  ("Afr", "\u1D50"),
  ("Agrave", "\u00C0"),
  ("Alpha", "9"),
  ("Amacr", "\x10"),
  ("And", "\u2A53"),
  ("Aogon", "\x10"),
  ("Aopf", "\u1D53"),
  ("ApplyFunction", "\u2061"),
  ("Aring", "\u00C5"),
  ("Ascr", "\u1D49"),
  ("Assign", "\u2254"),
  ("Atilde", "\u00C3"),
  ("Auml", "\u00C4")
]

/-- The names that start with B. -/
def upperB : List (String × String) := [
  ("Backslash", "\u2216"),
  ("Barv", "\u2AE7"),
  ("Barwed", "\u2306"),
  ("Bcy", "A"),
  ("Because", "\u2235"),
  ("Bernoullis", "\u212C"),
  ("Beta", "9"),
  ("Bfr", "\u1D50"),
  ("Bopf", "\u1D53"),
  ("Breve", "\x2d"),
  ("Bscr", "\u212C"),
  ("Bumpeq", "\u224E")
]

/-- The names that start with C. -/
def upperC : List (String × String) := [
  ("CHcy", "B"),
  ("COPY", "\u00A9"),
  ("Cacute", "\x10"),
  ("Cap", "\u22D2"),
  ("CapitalDifferentialD", "\u2145"),
  ("Cayleys", "\u212D"),
  ("Ccaron", "\x10"),
  ("Ccedil", "\u00C7"),
  ("Ccirc", "\x10"),
  ("Cconint", "\u2230"),
  ("Cdot", "\x10"),
  ("Cedilla", "\u00B8"),
  ("CenterDot", "\u00B7"),
  ("Cfr", "\u212D"),
  ("Chi", "\x3a"),
  ("CircleDot", "\u2299"),
  ("CircleMinus", "\u2296"),
  ("CirclePlus", "\u2295"),
  ("CircleTimes", "\u2297"),
  ("ClockwiseContourIntegral", "\u2232"),
  ("CloseCurlyDoubleQuote", "\u201D"),
  ("CloseCurlyQuote", "\u2019"),
  ("Colon", "\u2237"),
  ("Colone", "\u2A74"),
  ("Congruent", "\u2261"),
  ("Conint", "\u222F"),
  ("ContourIntegral", "\u222E"),
  ("Copf", "\u2102"),
  ("Coproduct", "\u2210"),
  ("CounterClockwiseContourIntegral", "\u2233"),
  ("Cross", "\u2A2F"),
  ("Cscr", "\u1D49"),
  ("Cup", "\u22D3"),
  ("CupCap", "\u224D")
]

/-- The names that start with D. -/
def upperD : List (String × String) := [
  ("DD", "\u2145"),
  ("DDotrahd", "\u2911"),
  ("DJcy", "\x40"),
  ("DScy", "\x40"),
  ("DZcy", "\x40"),
  ("Dagger", "\u2021"),
  ("Darr", "\u21A1"),
  ("Dashv", "\u2AE4"),
  ("Dcaron", "\x10"),
  ("Dcy", "A"),
  ("Del", "\u2207"),
  ("Delta", "9"),
  ("Dfr", "\u1D50"),
  ("DiacriticalAcute", "\u00B4"),
  ("DiacriticalDot", "\x2d"),
  ("DiacriticalDoubleAcute", "\x2d"),
  ("DiacriticalGrave", "\x60"),
  ("DiacriticalTilde", "\x2d"),
  ("Diamond", "\u22C4"),
  ("DifferentialD", "\u2146"),
  ("Dopf", "\u1D53"),
  ("Dot", "\u00A8"),
  ("DotDot", "\u20DC"),
  ("DotEqual", "\u2250"),
  ("DoubleContourIntegral", "\u222F"),
  ("DoubleDot", "\u00A8"),
  ("DoubleDownArrow", "\u21D3"),
  ("DoubleLeftArrow", "\u21D0"),
  ("DoubleLeftRightArrow", "\u21D4"),
  ("DoubleLeftTee", "\u2AE4"),
  ("DoubleLongLeftArrow", "\u27F8"),
  ("DoubleLongLeftRightArrow", "\u27FA"),
  ("DoubleLongRightArrow", "\u27F9"),
  ("DoubleRightArrow", "\u21D2"),
  ("DoubleRightTee", "\u22A8"),
  ("DoubleUpArrow", "\u21D1"),
  ("DoubleUpDownArrow", "\u21D5"),
  ("DoubleVerticalBar", "\u2225"),
  ("DownArrow", "\u2193"),
  ("DownArrowBar", "\u2913"),
  ("DownArrowUpArrow", "\u21F5"),
  ("DownBreve", "1"),
  ("DownLeftRightVector", "\u2950"),
  ("DownLeftTeeVector", "\u295E"),
  ("DownLeftVector", "\u21BD"),
  ("DownLeftVectorBar", "\u2956"),
  ("DownRightTeeVector", "\u295F"),
  ("DownRightVector", "\u21C1"),
  ("DownRightVectorBar", "\u2957"),
  ("DownTee", "\u22A4"),
  ("DownTeeArrow", "\u21A7"),
  ("Downarrow", "\u21D3"),
  ("Dscr", "\u1D49"),
  ("Dstrok", "\x11")
]

/-- The names that start with E. -/
def upperE : List (String × String) := [
  ("ENG", "\x14"),
  ("ETH", "\u00D0"),
  ("Eacute", "\u00C9"),
  ("Ecaron", "\x11"),
  ("Ecirc", "\u00CA"),
  ("Ecy", "B"),
  ("Edot", "\x11"),
  ("Efr", "\u1D50"),
  ("Egrave", "\u00C8"),
  ("Element", "\u2208"),
  ("Emacr", "\x11"),
  ("EmptySmallSquare", "\u25FB"),
  ("EmptyVerySmallSquare", "\u25AB"),
  ("Eogon", "\x11"),
  ("Eopf", "\u1D53"),
  ("Epsilon", "9"),
  ("Equal", "\u2A75"),
  ("EqualTilde", "\u2242"),
  ("Equilibrium", "\u21CC"),
  ("Escr", "\u2130"),
  ("Esim", "\u2A73"),
  ("Eta", "9"),
  ("Euml", "\u00CB"),
  ("Exists", "\u2203"),
  ("ExponentialE", "\u2147")
]

/-- The names that start with F. -/
def upperF : List (String × String) := [
  ("Fcy", "B"),
  ("Ffr", "\u1D50"),
  ("FilledSmallSquare", "\u25FC"),
  ("FilledVerySmallSquare", "\u25AA"),
  ("Fopf", "\u1D53"),
  ("ForAll", "\u2200"),
  ("Fouriertrf", "\u2131"),
  ("Fscr", "\u2131")
]

/-- The names that start with G. -/
def upperG : List (String × String) := [
  ("GJcy", "\x40"),
  ("GT", "\x3e"),
  ("Gamma", "9"),
  ("Gammad", "\x3d"),
  ("Gbreve", "\x11"),
  ("Gcedil", "\x12"),
  ("Gcirc", "\x11"),
  ("Gcy", "A"),
  ("Gdot", "\x12"),
  ("Gfr", "\u1D50"),
  ("Gg", "\u22D9"),
  ("Gopf", "\u1D53"),
  ("GreaterEqual", "\u2265"),
  ("GreaterEqualLess", "\u22DB"),
  ("GreaterFullEqual", "\u2267"),
  ("GreaterGreater", "\u2AA2"),
  ("GreaterLess", "\u2277"),
  ("GreaterSlantEqual", "\u2A7E"),
  ("GreaterTilde", "\u2273"),
  ("Gscr", "\u1D4A"),
  ("Gt", "\u226B")
]

/-- The names that start with H. -/
def upperH : List (String × String) := [
  ("HARDcy", "B"),
  ("Hacek", "\x2c"),
  ("Hat", "\x5e"),
  ("Hcirc", "\x12"),
  ("Hfr", "\u210C"),
  ("HilbertSpace", "\u210B"),
  ("Hopf", "\u210D"),
  ("HorizontalLine", "\u2500"),
  ("Hscr", "\u210B"),
  ("Hstrok", "\x12"),
  ("HumpDownHump", "\u224E"),
  ("HumpEqual", "\u224F")
]

/-- The names that start with I. -/
def upperI : List (String × String) := [
  ("IEcy", "A"),
  ("IJlig", "\x13"),
  ("IOcy", "\x40"),
  ("Iacute", "\u00CD"),
  ("Icirc", "\u00CE"),
  ("Icy", "A"),
  ("Idot", "\x13"),
  ("Ifr", "\u2111"),
  ("Igrave", "\u00CC"),
  ("Im", "\u2111"),
  ("Imacr", "\x12"),
  ("ImaginaryI", "\u2148"),
  ("Implies", "\u21D2"),
  ("Int", "\u222C"),
  ("Integral", "\u222B"),
  ("Intersection", "\u22C2"),
  ("InvisibleComma", "\u2063"),
  ("InvisibleTimes", "\u2062"),
  ("Iogon", "\x12"),
  ("Iopf", "\u1D54"),
  ("Iota", "9"),
  ("Iscr", "\u2110"),
  ("Itilde", "\x12"),
  ("Iukcy", "\x40"),
  ("Iuml", "\u00CF")
]

/-- The names that start with J. -/
def upperJ : List (String × String) := [
  ("Jcirc", "\x13"),
  ("Jcy", "A"),
  ("Jfr", "\u1D50"),
  ("Jopf", "\u1D54"),
  ("Jscr", "\u1D4A"),
  ("Jsercy", "\x40"),
  ("Jukcy", "\x40")
]

/-- The names that start with K. -/
def upperK : List (String × String) := [
  ("KHcy", "B"),
  ("KJcy", "\x40"),
  ("Kappa", "9"),
  ("Kcedil", "\x13"),
  ("Kcy", "A"),
  ("Kfr", "\u1D50"),
  ("Kopf", "\u1D54"),
  ("Kscr", "\u1D4A")
]

/-- The names that start with L. -/
def upperL : List (String × String) := [
  ("LJcy", "\x40"),
  ("LT", "\x3c"),
  ("Lacute", "\x13"),
  ("Lambda", "9"),
  ("Lang", "\u27EA"),
  ("Laplacetrf", "\u2112"),
  ("Larr", "\u219E"),
  ("Lcaron", "\x13"),
  ("Lcedil", "\x13"),
  ("Lcy", "A"),
  ("LeftAngleBracket", "\u27E8"),
  ("LeftArrow", "\u2190"),
  ("LeftArrowBar", "\u21E4"),
  ("LeftArrowRightArrow", "\u21C6"),
  ("LeftCeiling", "\u2308"),
  ("LeftDoubleBracket", "\u27E6"),
  ("LeftDownTeeVector", "\u2961"),
  ("LeftDownVector", "\u21C3"),
  ("LeftDownVectorBar", "\u2959"),
  ("LeftFloor", "\u230A"),
  ("LeftRightArrow", "\u2194"),
  ("LeftRightVector", "\u294E"),
  ("LeftTee", "\u22A3"),
  ("LeftTeeArrow", "\u21A4"),
  ("LeftTeeVector", "\u295A"),
  ("LeftTriangle", "\u22B2"),
  ("LeftTriangleBar", "\u29CF"),
  ("LeftTriangleEqual", "\u22B4"),
  ("LeftUpDownVector", "\u2951"),
  ("LeftUpTeeVector", "\u2960"),
  ("LeftUpVector", "\u21BF"),
  ("LeftUpVectorBar", "\u2958"),
  ("LeftVector", "\u21BC"),
  ("LeftVectorBar", "\u2952"),
  ("Leftarrow", "\u21D0"),
  ("Leftrightarrow", "\u21D4"),
  ("LessEqualGreater", "\u22DA"),
  ("LessFullEqual", "\u2266"),
  ("LessGreater", "\u2276"),
  ("LessLess", "\u2AA1"),
  ("LessSlantEqual", "\u2A7D"),
  ("LessTilde", "\u2272"),
  ("Lfr", "\u1D50"),
  ("Ll", "\u22D8"),
  ("Lleftarrow", "\u21DA"),
  ("Lmidot", "\x13"),
  ("LongLeftArrow", "\u27F5"),
  ("LongLeftRightArrow", "\u27F7"),
  ("LongRightArrow", "\u27F6"),
  ("Longleftarrow", "\u27F8"),
  ("Longleftrightarrow", "\u27FA"),
  ("Longrightarrow", "\u27F9"),
  ("Lopf", "\u1D54"),
  ("LowerLeftArrow", "\u2199"),
  ("LowerRightArrow", "\u2198"),
  ("Lscr", "\u2112"),
  ("Lsh", "\u21B0"),
  ("Lstrok", "\x14"),
  ("Lt", "\u226A")
]

/-- The names that start with M. -/
def upperM : List (String × String) := [
  ("Map", "\u2905"),
  ("Mcy", "A"),
  ("MediumSpace", "\u205F"),
  ("Mellintrf", "\u2133"),
  ("Mfr", "\u1D51"),
  ("MinusPlus", "\u2213"),
  ("Mopf", "\u1D54"),
  ("Mscr", "\u2133"),
  ("Mu", "9")
]

/-- The names that start with N. -/
def upperN : List (String × String) := [
  ("NJcy", "\x40"),
  ("Nacute", "\x14"),
  ("Ncaron", "\x14"),
  ("Ncedil", "\x14"),
  ("Ncy", "A"),
  ("NegativeMediumSpace", "\u200B"),
  ("NegativeThickSpace", "\u200B"),
  ("NegativeThinSpace", "\u200B"),
  ("NegativeVeryThinSpace", "\u200B"),
  ("NestedGreaterGreater", "\u226B"),
  ("NestedLessLess", "\u226A"),
  ("NewLine", "\x0a"),
  ("Nfr", "\u1D51"),
  ("NoBreak", "\u2060"),
  ("NonBreakingSpace", "\u00A0"),
  ("Nopf", "\u2115"),
  ("Not", "\u2AEC"),
  ("NotCongruent", "\u2262"),
  ("NotCupCap", "\u226D"),
  ("NotDoubleVerticalBar", "\u2226"),
  ("NotElement", "\u2209"),
  ("NotEqual", "\u2260"),
  ("NotExists", "\u2204"),
  ("NotGreater", "\u226F"),
  ("NotGreaterEqual", "\u2271"),
  ("NotGreaterLess", "\u2279"),
  ("NotGreaterTilde", "\u2275"),
  ("NotLeftTriangle", "\u22EA"),
  ("NotLeftTriangleEqual", "\u22EC"),
  ("NotLess", "\u226E"),
  ("NotLessEqual", "\u2270"),
  ("NotLessGreater", "\u2278"),
  ("NotLessTilde", "\u2274"),
  ("NotPrecedes", "\u2280"),
  ("NotPrecedesSlantEqual", "\u22E0"),
  ("NotReverseElement", "\u220C"),
  ("NotRightTriangle", "\u22EB"),
  ("NotRightTriangleEqual", "\u22ED"),
  ("NotSquareSubsetEqual", "\u22E2"),
  ("NotSquareSupersetEqual", "\u22E3"),
  ("NotSubsetEqual", "\u2288"),
  ("NotSucceeds", "\u2281"),
  ("NotSucceedsSlantEqual", "\u22E1"),
  ("NotSupersetEqual", "\u2289"),
  ("NotTilde", "\u2241"),
  ("NotTildeEqual", "\u2244"),
  ("NotTildeFullEqual", "\u2247"),
  ("NotTildeTilde", "\u2249"),
  ("NotVerticalBar", "\u2224"),
  ("Nscr", "\u1D4A"),
  ("Ntilde", "\u00D1"),
  ("Nu", "9")
]

/-- The names that start with O. -/
def upperO : List (String × String) := [
  ("OElig", "\x15"),
  ("Oacute", "\u00D3"),
  ("Ocirc", "\u00D4"),
  ("Ocy", "A"),
  ("Odblac", "\x15"),
  ("Ofr", "\u1D51"),
  ("Ograve", "\u00D2"),
  ("Omacr", "\x14"),
  ("Omega", "\x3a"),
  ("Omicron", "9"),
  ("Oopf", "\u1D54"),
  ("OpenCurlyDoubleQuote", "\u201C"),
  ("OpenCurlyQuote", "\u2018"),
  ("Or", "\u2A54"),
  ("Oscr", "\u1D4A"),
  ("Oslash", "\u00D8"),
  ("Otilde", "\u00D5"),
  ("Otimes", "\u2A37"),
  ("Ouml", "\u00D6"),
  ("OverBar", "\u00AF"),
  ("OverBrace", "\u23DE"),
  ("OverBracket", "\u23B4"),
  ("OverParenthesis", "\u23DC")
]

/-- The names that start with P. -/
def upperP : List (String × String) := [
  ("PartialD", "\u2202"),
  ("Pcy", "A"),
  ("Pfr", "\u1D51"),
  ("Phi", "\x3a"),
  ("Pi", "\x3a"),
  ("PlusMinus", "\u00B1"),
  ("Poincareplane", "\u210C"),
  ("Popf", "\u2119"),
  ("Pr", "\u2ABB"),
  ("Precedes", "\u227A"),
  ("PrecedesEqual", "\u2AAF"),
  ("PrecedesSlantEqual", "\u227C"),
  ("PrecedesTilde", "\u227E"),
  ("Prime", "\u2033"),
  ("Product", "\u220F"),
  ("Proportion", "\u2237"),
  ("Proportional", "\u221D"),
  ("Pscr", "\u1D4A"),
  ("Psi", "\x3a")
]

/-- The names that start with Q. -/
def upperQ : List (String × String) := [
  ("QUOT", "\x22"),
  ("Qfr", "\u1D51"),
  ("Qopf", "\u211A"),
  ("Qscr", "\u1D4A")
]

/-- The names that start with R. -/
def upperR : List (String × String) := [
  ("RBarr", "\u2910"),
  ("REG", "\u00AE"),
  ("Racute", "\x15"),
  ("Rang", "\u27EB"),
  ("Rarr", "\u21A0"),
  ("Rarrtl", "\u2916"),
  ("Rcaron", "\x15"),
  ("Rcedil", "\x15"),
  ("Rcy", "B"),
  ("Re", "\u211C"),
  ("ReverseElement", "\u220B"),
  ("ReverseEquilibrium", "\u21CB"),
  ("ReverseUpEquilibrium", "\u296F"),
  ("Rfr", "\u211C"),
  ("Rho", "\x3a"),
  ("RightAngleBracket", "\u27E9"),
  ("RightArrow", "\u2192"),
  ("RightArrowBar", "\u21E5"),
  ("RightArrowLeftArrow", "\u21C4"),
  ("RightCeiling", "\u2309"),
  ("RightDoubleBracket", "\u27E7"),
  ("RightDownTeeVector", "\u295D"),
  ("RightDownVector", "\u21C2"),
  ("RightDownVectorBar", "\u2955"),
  ("RightFloor", "\u230B"),
  ("RightTee", "\u22A2"),
  ("RightTeeArrow", "\u21A6"),
  ("RightTeeVector", "\u295B"),
  ("RightTriangle", "\u22B3"),
  ("RightTriangleBar", "\u29D0"),
  ("RightTriangleEqual", "\u22B5"),
  ("RightUpDownVector", "\u294F"),
  ("RightUpTeeVector", "\u295C"),
  ("RightUpVector", "\u21BE"),
  ("RightUpVectorBar", "\u2954"),
  ("RightVector", "\u21C0"),
  ("RightVectorBar", "\u2953"),
  ("Rightarrow", "\u21D2"),
  ("Ropf", "\u211D"),
  ("RoundImplies", "\u2970"),
  ("Rrightarrow", "\u21DB"),
  ("Rscr", "\u211B"),
  ("Rsh", "\u21B1"),
  ("RuleDelayed", "\u29F4")
]

/-- The names that start with S. -/
def upperS : List (String × String) := [
  ("SHCHcy", "B"),
  ("SHcy", "B"),
  ("SOFTcy", "B"),
  ("Sacute", "\x15"),
  ("Sc", "\u2ABC"),
  ("Scaron", "\x16"),
  ("Scedil", "\x15"),
  ("Scirc", "\x15"),
  ("Scy", "B"),
  ("Sfr", "\u1D51"),
  ("ShortDownArrow", "\u2193"),
  ("ShortLeftArrow", "\u2190"),
  ("ShortRightArrow", "\u2192"),
  ("ShortUpArrow", "\u2191"),
  ("Sigma", "\x3a"),
  ("SmallCircle", "\u2218"),
  ("Sopf", "\u1D54"),
  ("Sqrt", "\u221A"),
  ("Square", "\u25A1"),
  ("SquareIntersection", "\u2293"),
  ("SquareSubset", "\u228F"),
  ("SquareSubsetEqual", "\u2291"),
  ("SquareSuperset", "\u2290"),
  ("SquareSupersetEqual", "\u2292"),
  ("SquareUnion", "\u2294"),
  ("Sscr", "\u1D4A"),
  ("Star", "\u22C6"),
  ("Sub", "\u22D0"),
  ("Subset", "\u22D0"),
  ("SubsetEqual", "\u2286"),
  ("Succeeds", "\u227B"),
  ("SucceedsEqual", "\u2AB0"),
  ("SucceedsSlantEqual", "\u227D"),
  ("SucceedsTilde", "\u227F"),
  ("SuchThat", "\u220B"),
  ("Sum", "\u2211"),
  ("Sup", "\u22D1"),
  ("Superset", "\u2283"),
  ("SupersetEqual", "\u2287"),
  ("Supset", "\u22D1")
]

/-- The names that start with T. -/
def upperT : List (String × String) := [
  ("THORN", "\u00DE"),
  ("TRADE", "\u2122"),
  ("TSHcy", "\x40"),
  ("TScy", "B"),
  ("Tab", "\x09"),
  ("Tau", "\x3a"),
  ("Tcaron", "\x16"),
  ("Tcedil", "\x16"),
  ("Tcy", "B"),
  ("Tfr", "\u1D51"),
  ("Therefore", "\u2234"),
  ("Theta", "9"),
  ("ThinSpace", "\u2009"),
  ("Tilde", "\u223C"),
  ("TildeEqual", "\u2243"),
  ("TildeFullEqual", "\u2245"),
  ("TildeTilde", "\u2248"),
  ("Topf", "\u1D54"),
  ("TripleDot", "\u20DB"),
  ("Tscr", "\u1D4A"),
  ("Tstrok", "\x16")
]

/-- The names that start with U. -/
def upperU : List (String × String) := [
  ("Uacute", "\u00DA"),
  ("Uarr", "\u219F"),
  ("Uarrocir", "\u2949"),
  ("Ubrcy", "\x40"),
  ("Ubreve", "\x16"),
  ("Ucirc", "\u00DB"),
  ("Ucy", "B"),
  ("Udblac", "\x17"),
  ("Ufr", "\u1D51"),
  ("Ugrave", "\u00D9"),
  ("Umacr", "\x16"),
  ("UnderBar", "3"),
  ("UnderBrace", "\u23DF"),
  ("UnderBracket", "\u23B5"),
  ("UnderParenthesis", "\u23DD"),
  ("Union", "\u22C3"),
  ("UnionPlus", "\u228E"),
  ("Uogon", "\x17"),
  ("Uopf", "\u1D54"),
  ("UpArrow", "\u2191"),
  ("UpArrowBar", "\u2912"),
  ("UpArrowDownArrow", "\u21C5"),
  ("UpDownArrow", "\u2195"),
  ("UpEquilibrium", "\u296E"),
  ("UpTee", "\u22A5"),
  ("UpTeeArrow", "\u21A5"),
  ("Uparrow", "\u21D1"),
  ("Updownarrow", "\u21D5"),
  ("UpperLeftArrow", "\u2196"),
  ("UpperRightArrow", "\u2197"),
  ("Upsi", "\x3d"),
  ("Upsilon", "\x3a"),
  ("Uring", "\x16"),
  ("Uscr", "\u1D4B"),
  ("Utilde", "\x16"),
  ("Uuml", "\u00DC")
]

/-- The names that start with V. -/
def upperV : List (String × String) := [
  ("VDash", "\u22AB"),
  ("Vbar", "\u2AEB"),
  ("Vcy", "A"),
  ("Vdash", "\u22A9"),
  ("Vdashl", "\u2AE6"),
  ("Vee", "\u22C1"),
  ("Verbar", "\u2016"),
  ("Vert", "\u2016"),
  ("VerticalBar", "\u2223"),
  ("VerticalLine", "\x7c"),
  ("VerticalSeparator", "\u2758"),
  ("VerticalTilde", "\u2240"),
  ("VeryThinSpace", "\u200A"),
  ("Vfr", "\u1D51"),
  ("Vopf", "\u1D54"),
  ("Vscr", "\u1D4B"),
  ("Vvdash", "\u22AA")
]

/-- The names that start with W. -/
def upperW : List (String × String) := [
  ("Wcirc", "\x17"),
  ("Wedge", "\u22C0"),
  ("Wfr", "\u1D51"),
  ("Wopf", "\u1D54"),
  ("Wscr", "\u1D4B")
]

/-- The names that start with X. -/
def upperX : List (String × String) := [
  ("Xfr", "\u1D51"),
  ("Xi", "9"),
  ("Xopf", "\u1D54"),
  ("Xscr", "\u1D4B")
]

/-- The names that start with Y. -/
def upperY : List (String × String) := [
  ("YAcy", "B"),
  ("YIcy", "\x40"),
  ("YUcy", "B"),
  ("Yacute", "\u00DD"),
  ("Ycirc", "\x17"),
  ("Ycy", "B"),
  ("Yfr", "\u1D51"),
  ("Yopf", "\u1D55"),
  ("Yscr", "\u1D4B"),
  ("Yuml", "\x17")
]

/-- The names that start with Z. -/
def upperZ : List (String × String) := [
  ("ZHcy", "A"),
  ("Zacute", "\x17"),
  ("Zcaron", "\x17"),
  ("Zcy", "A"),
  ("Zdot", "\x17"),
  ("ZeroWidthSpace", "\u200B"),
  ("Zeta", "9"),
  ("Zfr", "\u2128"),
  ("Zopf", "\u2124"),
  ("Zscr", "\u1D4B")
]

/-- The names that start with a. -/
def lowerA : List (String × String) := [
  ("aacute", "\u00E1"),
  ("abreve", "\x10"),
  ("ac", "\u223E"),
  ("acd", "\u223F"),
  ("acirc", "\u00E2"),
  ("acute", "\u00B4"),
  ("acy", "C"),
  ("aelig", "\u00E6"),
  ("af", "\u2061"),
  ("afr", "\u1D51"),
  ("agrave", "\u00E0"),
  ("alefsym", "\u2135"),
  ("aleph", "\u2135"),
  ("alpha", "\x3b"),
  ("amacr", "\x10"),
  ("amalg", "\u2A3F"),
  ("amp", "\x26"),
  ("and", "\u2227"),
  ("andand", "\u2A55"),
  ("andd", "\u2A5C"),
  ("andslope", "\u2A58"),
  ("andv", "\u2A5A"),
  ("ang", "\u2220"),
  ("ange", "\u29A4"),
  ("angle", "\u2220"),
  ("angmsd", "\u2221"),
  ("angmsdaa", "\u29A8"),
  ("angmsdab", "\u29A9"),
  ("angmsdac", "\u29AA"),
  ("angmsdad", "\u29AB"),
  ("angmsdae", "\u29AC"),
  ("angmsdaf", "\u29AD"),
  ("angmsdag", "\u29AE"),
  ("angmsdah", "\u29AF"),
  ("angrt", "\u221F"),
  ("angrtvb", "\u22BE"),
  ("angrtvbd", "\u299D"),
  ("angsph", "\u2222"),
  ("angst", "\u212B"),
  ("angzarr", "\u237C"),
  ("aogon", "\x10"),
  ("aopf", "\u1D55"),
  ("ap", "\u2248"),
  ("apE", "\u2A70"),
  ("apacir", "\u2A6F"),
  ("ape", "\u224A"),
  ("apid", "\u224B"),
  ("apos", "\x27"),
  ("approx", "\u2248"),
  ("approxeq", "\u224A"),
  ("aring", "\u00E5"),
  ("ascr", "\u1D4B"),
  ("ast", "\x2a"),
  ("asymp", "\u2248"),
  ("asympeq", "\u224D"),
  ("atilde", "\u00E3"),
  ("auml", "\u00E4"),
  ("awconint", "\u2233"),
  ("awint", "\u2A11")
]

/-- The names that start with b. -/
def lowerB : List (String × String) := [
  ("bNot", "\u2AED"),
  ("backcong", "\u224C"),
  ("backepsilon", "\x3f"),
  ("backprime", "\u2035"),
  ("backsim", "\u223D"),
  ("backsimeq", "\u22CD"),
  ("barvee", "\u22BD"),
  ("barwed", "\u2305"),
  ("barwedge", "\u2305"),
  ("bbrk", "\u23B5"),
  ("bbrktbrk", "\u23B6"),
  ("bcong", "\u224C"),
  ("bcy", "C"),
  ("bdquo", "\u201E"),
  ("becaus", "\u2235"),
  ("because", "\u2235"),
  ("bemptyv", "\u29B0"),
  ("bepsi", "\x3f"),
  ("bernou", "\u212C"),
  ("beta", "\x3b"),
  ("beth", "\u2136"),
  ("between", "\u226C"),
  ("bfr", "\u1D51"),
  ("bigcap", "\u22C2"),
  ("bigcirc", "\u25EF"),
  ("bigcup", "\u22C3"),
  ("bigodot", "\u2A00"),
  ("bigoplus", "\u2A01"),
  ("bigotimes", "\u2A02"),
  ("bigsqcup", "\u2A06"),
  ("bigstar", "\u2605"),
  ("bigtriangledown", "\u25BD"),
  ("bigtriangleup", "\u25B3"),
  ("biguplus", "\u2A04"),
  ("bigvee", "\u22C1"),
  ("bigwedge", "\u22C0"),
  ("bkarow", "\u290D"),
  ("blacklozenge", "\u29EB"),
  ("blacksquare", "\u25AA"),
  ("blacktriangle", "\u25B4"),
  ("blacktriangledown", "\u25BE"),
  ("blacktriangleleft", "\u25C2"),
  ("blacktriangleright", "\u25B8"),
  ("blank", "\u2423"),
  ("blk12", "\u2592"),
  ("blk14", "\u2591"),
  ("blk34", "\u2593"),
  ("block", "\u2588"),
  ("bnot", "\u2310"),
  ("bopf", "\u1D55"),
  ("bot", "\u22A5"),
  ("bottom", "\u22A5"),
  ("bowtie", "\u22C8"),
  ("boxDL", "\u2557"),
  ("boxDR", "\u2554"),
  ("boxDl", "\u2556"),
  ("boxDr", "\u2553"),
  ("boxH", "\u2550"),
  ("boxHD", "\u2566"),
  ("boxHU", "\u2569"),
  ("boxHd", "\u2564"),
  ("boxHu", "\u2567"),
  ("boxUL", "\u255D"),
  ("boxUR", "\u255A"),
  ("boxUl", "\u255C"),
  ("boxUr", "\u2559"),
  ("boxV", "\u2551"),
  ("boxVH", "\u256C"),
  ("boxVL", "\u2563"),
  ("boxVR", "\u2560"),
  ("boxVh", "\u256B"),
  ("boxVl", "\u2562"),
  ("boxVr", "\u255F"),
  ("boxbox", "\u29C9"),
  ("boxdL", "\u2555"),
  ("boxdR", "\u2552"),
  ("boxdl", "\u2510"),
  ("boxdr", "\u250C"),
  ("boxh", "\u2500"),
  ("boxhD", "\u2565"),
  ("boxhU", "\u2568"),
  ("boxhd", "\u252C"),
  ("boxhu", "\u2534"),
  ("boxminus", "\u229F"),
  ("boxplus", "\u229E"),
  ("boxtimes", "\u22A0"),
  ("boxuL", "\u255B"),
  ("boxuR", "\u2558"),
  ("boxul", "\u2518"),
  ("boxur", "\u2514"),
  ("boxv", "\u2502"),
  ("boxvH", "\u256A"),
  ("boxvL", "\u2561"),
  ("boxvR", "\u255E"),
  ("boxvh", "\u253C"),
  ("boxvl", "\u2524"),
  ("boxvr", "\u251C"),
  ("bprime", "\u2035"),
  ("breve", "\x2d"),
  ("brvbar", "\u00A6"),
  ("bscr", "\u1D4B"),
  ("bsemi", "\u204F"),
  ("bsim", "\u223D"),
  ("bsime", "\u22CD"),
  ("bsol", "\x5c"),
  ("bsolb", "\u29C5"),
  ("bull", "\u2022"),
  ("bullet", "\u2022"),
  ("bump", "\u224E"),
  ("bumpE", "\u2AAE"),
  ("bumpe", "\u224F"),
  ("bumpeq", "\u224F")
]

/-- The names that start with c. -/
def lowerC : List (String × String) := [
  ("cacute", "\x10"),
  ("cap", "\u2229"),
  ("capand", "\u2A44"),
  ("capbrcup", "\u2A49"),
  ("capcap", "\u2A4B"),
  ("capcup", "\u2A47"),
  ("capdot", "\u2A40"),
  ("caret", "\u2041"),
  ("caron", "\x2c"),
  ("ccaps", "\u2A4D"),
  ("ccaron", "\x10"),
  ("ccedil", "\u00E7"),
  ("ccirc", "\x10"),
  ("ccups", "\u2A4C"),
  ("ccupssm", "\u2A50"),
  ("cdot", "\x10"),
  ("cedil", "\u00B8"),
  ("cemptyv", "\u29B2"),
  ("cent", "\u00A2"),
  ("centerdot", "\u00B7"),
  ("cfr", "\u1D52"),
  ("chcy", "D"),
  ("check", "\u2713"),
  ("checkmark", "\u2713"),
  ("chi", "\x3c"),
  ("cir", "\u25CB"),
  ("cirE", "\u29C3"),
  ("circ", "\x2c"),
  ("circeq", "\u2257"),
  ("circlearrowleft", "\u21BA"),
  ("circlearrowright", "\u21BB"),
  ("circledR", "\u00AE"),
  ("circledS", "\u24C8"),
  ("circledast", "\u229B"),
  ("circledcirc", "\u229A"),
  ("circleddash", "\u229D"),
  ("cire", "\u2257"),
  ("cirfnint", "\u2A10"),
  ("cirmid", "\u2AEF"),
  ("cirscir", "\u29C2"),
  ("clubs", "\u2663"),
  ("clubsuit", "\u2663"),
  ("colon", "\x3a"),
  ("colone", "\u2254"),
  ("coloneq", "\u2254"),
  ("comma", "\x2c"),
  ("commat", "\x40"),
  ("comp", "\u2201"),
  ("compfn", "\u2218"),
  ("complement", "\u2201"),
  ("complexes", "\u2102"),
  ("cong", "\u2245"),
  ("congdot", "\u2A6D"),
  ("conint", "\u222E"),
  ("copf", "\u1D55"),
  ("coprod", "\u2210"),
  ("copy", "\u00A9"),
  ("copysr", "\u2117"),
  ("crarr", "\u21B5"),
  ("cross", "\u2717"),
  ("cscr", "\u1D4B"),
  ("csub", "\u2ACF"),
  ("csube", "\u2AD1"),
  ("csup", "\u2AD0"),
  ("csupe", "\u2AD2"),
  ("ctdot", "\u22EF"),
  ("cudarrl", "\u2938"),
  ("cudarrr", "\u2935"),
  ("cuepr", "\u22DE"),
  ("cuesc", "\u22DF"),
  ("cularr", "\u21B6"),
  ("cularrp", "\u293D"),
  ("cup", "\u222A"),
  ("cupbrcap", "\u2A48"),
  ("cupcap", "\u2A46"),
  ("cupcup", "\u2A4A"),
  ("cupdot", "\u228D"),
  ("cupor", "\u2A45"),
  ("curarr", "\u21B7"),
  ("curarrm", "\u293C"),
  ("curlyeqprec", "\u22DE"),
  ("curlyeqsucc", "\u22DF"),
  ("curlyvee", "\u22CE"),
  ("curlywedge", "\u22CF"),
  ("curren", "\u00A4"),
  ("curvearrowleft", "\u21B6"),
  ("curvearrowright", "\u21B7"),
  ("cuvee", "\u22CE"),
  ("cuwed", "\u22CF"),
  ("cwconint", "\u2232"),
  ("cwint", "\u2231"),
  ("cylcty", "\u232D")
]

/-- The names that start with d. -/
def lowerD : List (String × String) := [
  ("dArr", "\u21D3"),
  ("dHar", "\u2965"),
  ("dagger", "\u2020"),
  ("daleth", "\u2138"),
  ("darr", "\u2193"),
  ("dash", "\u2010"),
  ("dashv", "\u22A3"),
  ("dbkarow", "\u290F"),
  ("dblac", "\x2d"),
  ("dcaron", "\x10"),
  ("dcy", "C"),
  ("dd", "\u2146"),
  ("ddagger", "\u2021"),
  ("ddarr", "\u21CA"),
  ("ddotseq", "\u2A77"),
  ("deg", "\u00B0"),
  ("delta", "\x3b"),
  ("demptyv", "\u29B1"),
  ("dfisht", "\u297F"),
  ("dfr", "\u1D52"),
  ("dharl", "\u21C3"),
  ("dharr", "\u21C2"),
  ("diam", "\u22C4"),
  ("diamond", "\u22C4"),
  ("diamondsuit", "\u2666"),
  ("diams", "\u2666"),
  ("die", "\u00A8"),
  ("digamma", "\x3d"),
  ("disin", "\u22F2"),
  ("div", "\u00F7"),
  ("divide", "\u00F7"),
  ("divideontimes", "\u22C7"),
  ("divonx", "\u22C7"),
  ("djcy", "E"),
  ("dlcorn", "\u231E"),
  ("dlcrop", "\u230D"),
  ("dollar", "\x24"),
  ("dopf", "\u1D55"),
  ("dot", "\x2d"),
  ("doteq", "\u2250"),
  ("doteqdot", "\u2251"),
  ("dotminus", "\u2238"),
  ("dotplus", "\u2214"),
  ("dotsquare", "\u22A1"),
  ("doublebarwedge", "\u2306"),
  ("downarrow", "\u2193"),
  ("downdownarrows", "\u21CA"),
  ("downharpoonleft", "\u21C3"),
  ("downharpoonright", "\u21C2"),
  ("drbkarow", "\u2910"),
  ("drcorn", "\u231F"),
  ("drcrop", "\u230C"),
  ("dscr", "\u1D4B"),
  ("dscy", "E"),
  ("dsol", "\u29F6"),
  ("dstrok", "\x11"),
  ("dtdot", "\u22F1"),
  ("dtri", "\u25BF"),
  ("dtrif", "\u25BE"),
  ("duarr", "\u21F5"),
  ("duhar", "\u296F"),
  ("dwangle", "\u29A6"),
  ("dzcy", "E"),
  ("dzigrarr", "\u27FF")
]

/-- The names that start with e. -/
def lowerE : List (String × String) := [
  ("eDDot", "\u2A77"),
  ("eDot", "\u2251"),
  ("eacute", "\u00E9"),
  ("easter", "\u2A6E"),
  ("ecaron", "\x11"),
  ("ecir", "\u2256"),
  ("ecirc", "\u00EA"),
  ("ecolon", "\u2255"),
  ("ecy", "D"),
  ("edot", "\x11"),
  ("ee", "\u2147"),
  ("efDot", "\u2252"),
  ("efr", "\u1D52"),
  ("eg", "\u2A9A"),
  ("egrave", "\u00E8"),
  ("egs", "\u2A96"),
  ("egsdot", "\u2A98"),
  ("el", "\u2A99"),
  ("elinters", "\u23E7"),
  ("ell", "\u2113"),
  ("els", "\u2A95"),
  ("elsdot", "\u2A97"),
  ("emacr", "\x11"),
  ("empty", "\u2205"),
  ("emptyset", "\u2205"),
  ("emptyv", "\u2205"),
  ("emsp", "\u2003"),
  ("emsp13", "\u2004"),
  ("emsp14", "\u2005"),
  ("eng", "\x14"),
  ("ensp", "\u2002"),
  ("eogon", "\x11"),
  ("eopf", "\u1D55"),
  ("epar", "\u22D5"),
  ("eparsl", "\u29E3"),
  ("eplus", "\u2A71"),
  ("epsi", "\x3f"),
  ("epsilon", "\x3b"),
  ("epsiv", "\x3b"),
  ("eqcirc", "\u2256"),
  ("eqcolon", "\u2255"),
  ("eqsim", "\u2242"),
  ("eqslantgtr", "\u2A96"),
  ("eqslantless", "\u2A95"),
  ("equals", "\x3d"),
  ("equest", "\u225F"),
  ("equiv", "\u2261"),
  ("equivDD", "\u2A78"),
  ("eqvparsl", "\u29E5"),
  ("erDot", "\u2253"),
  ("erarr", "\u2971"),
  ("escr", "\u212F"),
  ("esdot", "\u2250"),
  ("esim", "\u2242"),
  ("eta", "\x3b"),
  ("eth", "\u00F0"),
  ("euml", "\u00EB"),
  ("euro", "\u20AC"),
  ("excl", "\x21"),
  ("exist", "\u2203"),
  ("expectation", "\u2130"),
  ("exponentiale", "\u2147")
]

/-- The names that start with f. -/
def lowerF : List (String × String) := [
  ("fallingdotseq", "\u2252"),
  ("fcy", "D"),
  ("female", "\u2640"),
  ("ffilig", "\uFB03"),
  ("fflig", "\uFB00"),
  ("ffllig", "\uFB04"),
  ("ffr", "\u1D52"),
  ("filig", "\uFB01"),
  ("flat", "\u266D"),
  ("fllig", "\uFB02"),
  ("fltns", "\u25B1"),
  ("fnof", "\x19"),
  ("fopf", "\u1D55"),
  ("forall", "\u2200"),
  ("fork", "\u22D4"),
  ("forkv", "\u2AD9"),
  ("fpartint", "\u2A0D"),
  ("frac12", "\u00BD"),
  ("frac13", "\u2153"),
  ("frac14", "\u00BC"),
  ("frac15", "\u2155"),
  ("frac16", "\u2159"),
  ("frac18", "\u215B"),
  ("frac23", "\u2154"),
  ("frac25", "\u2156"),
  ("frac34", "\u00BE"),
  ("frac35", "\u2157"),
  ("frac38", "\u215C"),
  ("frac45", "\u2158"),
  ("frac56", "\u215A"),
  ("frac58", "\u215D"),
  ("frac78", "\u215E"),
  ("frasl", "\u2044"),
  ("frown", "\u2322"),
  ("fscr", "\u1D4B")
]

/-- The names that start with g. -/
def lowerG : List (String × String) := [
  ("gE", "\u2267"),
  ("gEl", "\u2A8C"),
  ("gacute", "\x1f"),
  ("gamma", "\x3b"),
  ("gammad", "\x3d"),
  ("gap", "\u2A86"),
  ("gbreve", "\x11"),
  ("gcirc", "\x11"),
  ("gcy", "C"),
  ("gdot", "\x12"),
  ("ge", "\u2265"),
  ("gel", "\u22DB"),
  ("geq", "\u2265"),
  ("geqq", "\u2267"),
  ("geqslant", "\u2A7E"),
  ("ges", "\u2A7E"),
  ("gescc", "\u2AA9"),
  ("gesdot", "\u2A80"),
  ("gesdoto", "\u2A82"),
  ("gesdotol", "\u2A84"),
  ("gesles", "\u2A94"),
  ("gfr", "\u1D52"),
  ("gg", "\u226B"),
  ("ggg", "\u22D9"),
  ("gimel", "\u2137"),
  ("gjcy", "E"),
  ("gl", "\u2277"),
  ("glE", "\u2A92"),
  ("gla", "\u2AA5"),
  ("glj", "\u2AA4"),
  ("gnE", "\u2269"),
  ("gnap", "\u2A8A"),
  ("gnapprox", "\u2A8A"),
  ("gne", "\u2A88"),
  ("gneq", "\u2A88"),
  ("gneqq", "\u2269"),
  ("gnsim", "\u22E7"),
  ("gopf", "\u1D55"),
  ("grave", "\x60"),
  ("gscr", "\u210A"),
  ("gsim", "\u2273"),
  ("gsime", "\u2A8E"),
  ("gsiml", "\u2A90"),
  ("gt", "\x3e"),
  ("gtcc", "\u2AA7"),
  ("gtcir", "\u2A7A"),
  ("gtdot", "\u22D7"),
  ("gtlPar", "\u2995"),
  ("gtquest", "\u2A7C"),
  ("gtrapprox", "\u2A86"),
  ("gtrarr", "\u2978"),
  ("gtrdot", "\u22D7"),
  ("gtreqless", "\u22DB"),
  ("gtreqqless", "\u2A8C"),
  ("gtrless", "\u2277"),
  ("gtrsim", "\u2273")
]

/-- The names that start with h. -/
def lowerH : List (String × String) := [
  ("hArr", "\u21D4"),
  ("hairsp", "\u200A"),
  ("half", "\u00BD"),
  ("hamilt", "\u210B"),
  ("hardcy", "D"),
  ("harr", "\u2194"),
  ("harrcir", "\u2948"),
  ("harrw", "\u21AD"),
  ("hbar", "\u210F"),
  ("hcirc", "\x12"),
  ("hearts", "\u2665"),
  ("heartsuit", "\u2665"),
  ("hellip", "\u2026"),
  ("hercon", "\u22B9"),
  ("hfr", "\u1D52"),
  ("hksearow", "\u2925"),
  ("hkswarow", "\u2926"),
  ("hoarr", "\u21FF"),
  ("homtht", "\u223B"),
  ("hookleftarrow", "\u21A9"),
  ("hookrightarrow", "\u21AA"),
  ("hopf", "\u1D55"),
  ("horbar", "\u2015"),
  ("hscr", "\u1D4B"),
  ("hslash", "\u210F"),
  ("hstrok", "\x12"),
  ("hybull", "\u2043"),
  ("hyphen", "\u2010")
]

/-- The names that start with i. -/
def lowerI : List (String × String) := [
  ("iacute", "\u00ED"),
  ("ic", "\u2063"),
  ("icirc", "\u00EE"),
  ("icy", "C"),
  ("iecy", "C"),
  ("iexcl", "\u00A1"),
  ("iff", "\u21D4"),
  ("ifr", "\u1D52"),
  ("igrave", "\u00EC"),
  ("ii", "\u2148"),
  ("iiiint", "\u2A0C"),
  ("iiint", "\u222D"),
  ("iinfin", "\u29DC"),
  ("iiota", "\u2129"),
  ("ijlig", "\x13"),
  ("imacr", "\x12"),
  ("image", "\u2111"),
  ("imagline", "\u2110"),
  ("imagpart", "\u2111"),
  ("imath", "\x13"),
  ("imof", "\u22B7"),
  ("imped", "\x1b"),
  ("in", "\u2208"),
  ("incare", "\u2105"),
  ("infin", "\u221E"),
  ("infintie", "\u29DD"),
  ("inodot", "\x13"),
  ("int", "\u222B"),
  ("intcal", "\u22BA"),
  ("integers", "\u2124"),
  ("intercal", "\u22BA"),
  ("intlarhk", "\u2A17"),
  ("intprod", "\u2A3C"),
  ("iocy", "E"),
  ("iogon", "\x12"),
  ("iopf", "\u1D55"),
  ("iota", "\x3b"),
  ("iprod", "\u2A3C"),
  ("iquest", "\u00BF"),
  ("iscr", "\u1D4B"),
  ("isin", "\u2208"),
  ("isinE", "\u22F9"),
  ("isindot", "\u22F5"),
  ("isins", "\u22F4"),
  ("isinsv", "\u22F3"),
  ("isinv", "\u2208"),
  ("it", "\u2062"),
  ("itilde", "\x12"),
  ("iukcy", "E"),
  ("iuml", "\u00EF")
]

/-- The names that start with j. -/
def lowerJ : List (String × String) := [
  ("jcirc", "\x13"),
  ("jcy", "C"),
  ("jfr", "\u1D52"),
  ("jmath", "\x23"),
  ("jopf", "\u1D55"),
  ("jscr", "\u1D4B"),
  ("jsercy", "E"),
  ("jukcy", "E")
]

/-- The names that start with k. -/
def lowerK : List (String × String) := [
  ("kappa", "\x3b"),
  ("kappav", "\x3f"),
  ("kcedil", "\x13"),
  ("kcy", "C"),
  ("kfr", "\u1D52"),
  ("kgreen", "\x13"),
  ("khcy", "D"),
  ("kjcy", "E"),
  ("kopf", "\u1D55"),
  ("kscr", "\u1D4C")
]

/-- The names that start with l. -/
def lowerL : List (String × String) := [
  ("lAarr", "\u21DA"),
  ("lArr", "\u21D0"),
  ("lAtail", "\u291B"),
  ("lBarr", "\u290E"),
  ("lE", "\u2266"),
  ("lEg", "\u2A8B"),
  ("lHar", "\u2962"),
  ("lacute", "\x13"),
  ("laemptyv", "\u29B4"),
  ("lagran", "\u2112"),
  ("lambda", "\x3b"),
  ("lang", "\u27E8"),
  ("langd", "\u2991"),
  ("langle", "\u27E8"),
  ("lap", "\u2A85"),
  ("laquo", "\u00AB"),
  ("larr", "\u2190"),
  ("larrb", "\u21E4"),
  ("larrbfs", "\u291F"),
  ("larrfs", "\u291D"),
  ("larrhk", "\u21A9"),
  ("larrlp", "\u21AB"),
  ("larrpl", "\u2939"),
  ("larrsim", "\u2973"),
  ("larrtl", "\u21A2"),
  ("lat", "\u2AAB"),
  ("latail", "\u2919"),
  ("late", "\u2AAD"),
  ("lbarr", "\u290C"),
  ("lbbrk", "\u2772"),
  ("lbrace", "\x7b"),
  ("lbrack", "\x5b"),
  ("lbrke", "\u298B"),
  ("lbrksld", "\u298F"),
  ("lbrkslu", "\u298D"),
  ("lcaron", "\x13"),
  ("lcedil", "\x13"),
  ("lceil", "\u2308"),
  ("lcub", "\x7b"),
  ("lcy", "C"),
  ("ldca", "\u2936"),
  ("ldquo", "\u201C"),
  ("ldquor", "\u201E"),
  ("ldrdhar", "\u2967"),
  ("ldrushar", "\u294B"),
  ("ldsh", "\u21B2"),
  ("le", "\u2264"),
  ("leftarrow", "\u2190"),
  ("leftarrowtail", "\u21A2"),
  ("leftharpoondown", "\u21BD"),
  ("leftharpoonup", "\u21BC"),
  ("leftleftarrows", "\u21C7"),
  ("leftrightarrow", "\u2194"),
  ("leftrightarrows", "\u21C6"),
  ("leftrightharpoons", "\u21CB"),
  ("leftrightsquigarrow", "\u21AD"),
  ("leftthreetimes", "\u22CB"),
  ("leg", "\u22DA"),
  ("leq", "\u2264"),
  ("leqq", "\u2266"),
  ("leqslant", "\u2A7D"),
  ("les", "\u2A7D"),
  ("lescc", "\u2AA8"),
  ("lesdot", "\u2A7F"),
  ("lesdoto", "\u2A81"),
  ("lesdotor", "\u2A83"),
  ("lesges", "\u2A93"),
  ("lessapprox", "\u2A85"),
  ("lessdot", "\u22D6"),
  ("lesseqgtr", "\u22DA"),
  ("lesseqqgtr", "\u2A8B"),
  ("lessgtr", "\u2276"),
  ("lesssim", "\u2272"),
  ("lfisht", "\u297C"),
  ("lfloor", "\u230A"),
  ("lfr", "\u1D52"),
  ("lg", "\u2276"),
  ("lgE", "\u2A91"),
  ("lhard", "\u21BD"),
  ("lharu", "\u21BC"),
  ("lharul", "\u296A"),
  ("lhblk", "\u2584"),
  ("ljcy", "E"),
  ("ll", "\u226A"),
  ("llarr", "\u21C7"),
  ("llcorner", "\u231E"),
  ("llhard", "\u296B"),
  ("lltri", "\u25FA"),
  ("lmidot", "\x14"),
  ("lmoust", "\u23B0"),
  ("lmoustache", "\u23B0"),
  ("lnE", "\u2268"),
  ("lnap", "\u2A89"),
  ("lnapprox", "\u2A89"),
  ("lne", "\u2A87"),
  ("lneq", "\u2A87"),
  ("lneqq", "\u2268"),
  ("lnsim", "\u22E6"),
  ("loang", "\u27EC"),
  ("loarr", "\u21FD"),
  ("lobrk", "\u27E6"),
  ("longleftarrow", "\u27F5"),
  ("longleftrightarrow", "\u27F7"),
  ("longmapsto", "\u27FC"),
  ("longrightarrow", "\u27F6"),
  ("looparrowleft", "\u21AB"),
  ("looparrowright", "\u21AC"),
  ("lopar", "\u2985"),
  ("lopf", "\u1D55"),
  ("loplus", "\u2A2D"),
  ("lotimes", "\u2A34"),
  ("lowast", "\u2217"),
  ("lowbar", "\x5f"),
  ("loz", "\u25CA"),
  ("lozenge", "\u25CA"),
  ("lozf", "\u29EB"),
  ("lpar", "\x28"),
  ("lparlt", "\u2993"),
  ("lrarr", "\u21C6"),
  ("lrcorner", "\u231F"),
  ("lrhar", "\u21CB"),
  ("lrhard", "\u296D"),
  ("lrm", "\u200E"),
  ("lrtri", "\u22BF"),
  ("lsaquo", "\u2039"),
  ("lscr", "\u1D4C"),
  ("lsh", "\u21B0"),
  ("lsim", "\u2272"),
  ("lsime", "\u2A8D"),
  ("lsimg", "\u2A8F"),
  ("lsqb", "\x5b"),
  ("lsquo", "\u2018"),
  ("lsquor", "\u201A"),
  ("lstrok", "\x14"),
  ("lt", "\x3c"),
  ("ltcc", "\u2AA6"),
  ("ltcir", "\u2A79"),
  ("ltdot", "\u22D6"),
  ("lthree", "\u22CB"),
  ("ltimes", "\u22C9"),
  ("ltlarr", "\u2976"),
  ("ltquest", "\u2A7B"),
  ("ltrPar", "\u2996"),
  ("ltri", "\u25C3"),
  ("ltrie", "\u22B4"),
  ("ltrif", "\u25C2"),
  ("lurdshar", "\u294A"),
  ("luruhar", "\u2966")
]

/-- The names that start with m. -/
def lowerM : List (String × String) := [
  ("mDDot", "\u223A"),
  ("macr", "\u00AF"),
  ("male", "\u2642"),
  ("malt", "\u2720"),
  ("maltese", "\u2720"),
  ("map", "\u21A6"),
  ("mapsto", "\u21A6"),
  ("mapstodown", "\u21A7"),
  ("mapstoleft", "\u21A4"),
  ("mapstoup", "\u21A5"),
  ("marker", "\u25AE"),
  ("mcomma", "\u2A29"),
  ("mcy", "C"),
  ("mdash", "\u2014"),
  ("measuredangle", "\u2221"),
  ("mfr", "\u1D52"),
  ("mho", "\u2127"),
  ("micro", "\u00B5"),
  ("mid", "\u2223"),
  ("midast", "\x2a"),
  ("midcir", "\u2AF0"),
  ("middot", "\u00B7"),
  ("minus", "\u2212"),
  ("minusb", "\u229F"),
  ("minusd", "\u2238"),
  ("minusdu", "\u2A2A"),
  ("mlcp", "\u2ADB"),
  ("mldr", "\u2026"),
  ("mnplus", "\u2213"),
  ("models", "\u22A7"),
  ("mopf", "\u1D55"),
  ("mp", "\u2213"),
  ("mscr", "\u1D4C"),
  ("mstpos", "\u223E"),
  ("mu", "\x3b"),
  ("multimap", "\u22B8"),
  ("mumap", "\u22B8")
]

/-- The names that start with n. -/
def lowerN : List (String × String) := [
  ("nLeftarrow", "\u21CD"),
  ("nLeftrightarrow", "\u21CE"),
  ("nRightarrow", "\u21CF"),
  ("nVDash", "\u22AF"),
  ("nVdash", "\u22AE"),
  ("nabla", "\u2207"),
  ("nacute", "\x14"),
  ("nap", "\u2249"),
  ("napos", "\x14"),
  ("napprox", "\u2249"),
  ("natur", "\u266E"),
  ("natural", "\u266E"),
  ("naturals", "\u2115"),
  ("nbsp", "\u00A0"),
  ("ncap", "\u2A43"),
  ("ncaron", "\x14"),
  ("ncedil", "\x14"),
  ("ncong", "\u2247"),
  ("ncup", "\u2A42"),
  ("ncy", "C"),
  ("ndash", "\u2013"),
  ("ne", "\u2260"),
  ("neArr", "\u21D7"),
  ("nearhk", "\u2924"),
  ("nearr", "\u2197"),
  ("nearrow", "\u2197"),
  ("nequiv", "\u2262"),
  ("nesear", "\u2928"),
  ("nexist", "\u2204"),
  ("nexists", "\u2204"),
  ("nfr", "\u1D52"),
  ("nge", "\u2271"),
  ("ngeq", "\u2271"),
  ("ngsim", "\u2275"),
  ("ngt", "\u226F"),
  ("ngtr", "\u226F"),
  ("nhArr", "\u21CE"),
  ("nharr", "\u21AE"),
  ("nhpar", "\u2AF2"),
  ("ni", "\u220B"),
  ("nis", "\u22FC"),
  ("nisd", "\u22FA"),
  ("niv", "\u220B"),
  ("njcy", "E"),
  ("nlArr", "\u21CD"),
  ("nlarr", "\u219A"),
  ("nldr", "\u2025"),
  ("nle", "\u2270"),
  ("nleftarrow", "\u219A"),
  ("nleftrightarrow", "\u21AE"),
  ("nleq", "\u2270"),
  ("nless", "\u226E"),
  ("nlsim", "\u2274"),
  ("nlt", "\u226E"),
  ("nltri", "\u22EA"),
  ("nltrie", "\u22EC"),
  ("nmid", "\u2224"),
  ("nopf", "\u1D55"),
  ("not", "\u00AC"),
  ("notin", "\u2209"),
  ("notinva", "\u2209"),
  ("notinvb", "\u22F7"),
  ("notinvc", "\u22F6"),
  ("notni", "\u220C"),
  ("notniva", "\u220C"),
  ("notnivb", "\u22FE"),
  ("notnivc", "\u22FD"),
  ("npar", "\u2226"),
  ("nparallel", "\u2226"),
  ("npolint", "\u2A14"),
  ("npr", "\u2280"),
  ("nprcue", "\u22E0"),
  ("nprec", "\u2280"),
  ("nrArr", "\u21CF"),
  ("nrarr", "\u219B"),
  ("nrightarrow", "\u219B"),
  ("nrtri", "\u22EB"),
  ("nrtrie", "\u22ED"),
  ("nsc", "\u2281"),
  ("nsccue", "\u22E1"),
  ("nscr", "\u1D4C"),
  ("nshortmid", "\u2224"),
  ("nshortparallel", "\u2226"),
  ("nsim", "\u2241"),
  ("nsime", "\u2244"),
  ("nsimeq", "\u2244"),
  ("nsmid", "\u2224"),
  ("nspar", "\u2226"),
  ("nsqsube", "\u22E2"),
  ("nsqsupe", "\u22E3"),
  ("nsub", "\u2284"),
  ("nsube", "\u2288"),
  ("nsubseteq", "\u2288"),
  ("nsucc", "\u2281"),
  ("nsup", "\u2285"),
  ("nsupe", "\u2289"),
  ("nsupseteq", "\u2289"),
  ("ntgl", "\u2279"),
  ("ntilde", "\u00F1"),
  ("ntlg", "\u2278"),
  ("ntriangleleft", "\u22EA"),
  ("ntrianglelefteq", "\u22EC"),
  ("ntriangleright", "\u22EB"),
  ("ntrianglerighteq", "\u22ED"),
  ("nu", "\x3b"),
  ("num", "\x23"),
  ("numero", "\u2116"),
  ("numsp", "\u2007"),
  ("nvDash", "\u22AD"),
  ("nvHarr", "\u2904"),
  ("nvdash", "\u22AC"),
  ("nvinfin", "\u29DE"),
  ("nvlArr", "\u2902"),
  ("nvrArr", "\u2903"),
  ("nwArr", "\u21D6"),
  ("nwarhk", "\u2923"),
  ("nwarr", "\u2196"),
  ("nwarrow", "\u2196"),
  ("nwnear", "\u2927")
]

/-- The names that start with o. -/
def lowerO : List (String × String) := [
  ("oS", "\u24C8"),
  ("oacute", "\u00F3"),
  ("oast", "\u229B"),
  ("ocir", "\u229A"),
  ("ocirc", "\u00F4"),
  ("ocy", "C"),
  ("odash", "\u229D"),
  ("odblac", "\x15"),
  ("odiv", "\u2A38"),
  ("odot", "\u2299"),
  ("odsold", "\u29BC"),
  ("oelig", "\x15"),
  ("ofcir", "\u29BF"),
  ("ofr", "\u1D52"),
  ("ogon", "\x2d"),
  ("ograve", "\u00F2"),
  ("ogt", "\u29C1"),
  ("ohbar", "\u29B5"),
  ("ohm", "\u2126"),
  ("oint", "\u222E"),
  ("olarr", "\u21BA"),
  ("olcir", "\u29BE"),
  ("olcross", "\u29BB"),
  ("oline", "\u203E"),
  ("olt", "\u29C0"),
  ("omacr", "\x14"),
  ("omega", "\x3c"),
  ("omicron", "\x3b"),
  ("omid", "\u29B6"),
  ("ominus", "\u2296"),
  ("oopf", "\u1D56"),
  ("opar", "\u29B7"),
  ("operp", "\u29B9"),
  ("oplus", "\u2295"),
  ("or", "\u2228"),
  ("orarr", "\u21BB"),
  ("ord", "\u2A5D"),
  ("order", "\u2134"),
  ("orderof", "\u2134"),
  ("ordf", "\u00AA"),
  ("ordm", "\u00BA"),
  ("origof", "\u22B6"),
  ("oror", "\u2A56"),
  ("orslope", "\u2A57"),
  ("orv", "\u2A5B"),
  ("oscr", "\u2134"),
  ("oslash", "\u00F8"),
  ("osol", "\u2298"),
  ("otilde", "\u00F5"),
  ("otimes", "\u2297"),
  ("otimesas", "\u2A36"),
  ("ouml", "\u00F6"),
  ("ovbar", "\u233D")
]

/-- The names that start with p. -/
def lowerP : List (String × String) := [
  ("par", "\u2225"),
  ("para", "\u00B6"),
  ("parallel", "\u2225"),
  ("parsim", "\u2AF3"),
  ("parsl", "\u2AFD"),
  ("part", "\u2202"),
  ("pcy", "C"),
  ("percnt", "\x25"),
  ("period", "\x2e"),
  ("permil", "\u2030"),
  ("perp", "\u22A5"),
  ("pertenk", "\u2031"),
  ("pfr", "\u1D52"),
  ("phi", "\x3c"),
  ("phiv", "\x3c"),
  ("phmmat", "\u2133"),
  ("phone", "\u260E"),
  ("pi", "\x3c"),
  ("pitchfork", "\u22D4"),
  ("piv", "\x3d"),
  ("planck", "\u210F"),
  ("planckh", "\u210E"),
  ("plankv", "\u210F"),
  ("plus", "\x2b"),
  ("plusacir", "\u2A23"),
  ("plusb", "\u229E"),
  ("pluscir", "\u2A22"),
  ("plusdo", "\u2214"),
  ("plusdu", "\u2A25"),
  ("pluse", "\u2A72"),
  ("plusmn", "\u00B1"),
  ("plussim", "\u2A26"),
  ("plustwo", "\u2A27"),
  ("pm", "\u00B1"),
  ("pointint", "\u2A15"),
  ("popf", "\u1D56"),
  ("pound", "\u00A3"),
  ("pr", "\u227A"),
  ("prE", "\u2AB3"),
  ("prap", "\u2AB7"),
  ("prcue", "\u227C"),
  ("pre", "\u2AAF"),
  ("prec", "\u227A"),
  ("precapprox", "\u2AB7"),
  ("preccurlyeq", "\u227C"),
  ("preceq", "\u2AAF"),
  ("precnapprox", "\u2AB9"),
  ("precneqq", "\u2AB5"),
  ("precnsim", "\u22E8"),
  ("precsim", "\u227E"),
  ("prime", "\u2032"),
  ("primes", "\u2119"),
  ("prnE", "\u2AB5"),
  ("prnap", "\u2AB9"),
  ("prnsim", "\u22E8"),
  ("prod", "\u220F"),
  ("profalar", "\u232E"),
  ("profline", "\u2312"),
  ("profsurf", "\u2313"),
  ("prop", "\u221D"),
  ("propto", "\u221D"),
  ("prsim", "\u227E"),
  ("prurel", "\u22B0"),
  ("pscr", "\u1D4C"),
  ("psi", "\x3c"),
  ("puncsp", "\u2008")
]

/-- The names that start with q. -/
def lowerQ : List (String × String) := [
  ("qfr", "\u1D52"),
  ("qint", "\u2A0C"),
  ("qopf", "\u1D56"),
  ("qprime", "\u2057"),
  ("qscr", "\u1D4C"),
  ("quaternions", "\u210D"),
  ("quatint", "\u2A16"),
  ("quest", "\x3f"),
  ("questeq", "\u225F"),
  ("quot", "\x22")
]

/-- The names that start with r. -/
def lowerR : List (String × String) := [
  ("rAarr", "\u21DB"),
  ("rArr", "\u21D2"),
  ("rAtail", "\u291C"),
  ("rBarr", "\u290F"),
  ("rHar", "\u2964"),
  ("race", "\u29DA"),
  ("racute", "\x15"),
  ("radic", "\u221A"),
  ("raemptyv", "\u29B3"),
  ("rang", "\u27E9"),
  ("rangd", "\u2992"),
  ("range", "\u29A5"),
  ("rangle", "\u27E9"),
  ("raquo", "\u00BB"),
  ("rarr", "\u2192"),
  ("rarrap", "\u2975"),
  ("rarrb", "\u21E5"),
  ("rarrbfs", "\u2920"),
  ("rarrc", "\u2933"),
  ("rarrfs", "\u291E"),
  ("rarrhk", "\u21AA"),
  ("rarrlp", "\u21AC"),
  ("rarrpl", "\u2945"),
  ("rarrsim", "\u2974"),
  ("rarrtl", "\u21A3"),
  ("rarrw", "\u219D"),
  ("ratail", "\u291A"),
  ("ratio", "\u2236"),
  ("rationals", "\u211A"),
  ("rbarr", "\u290D"),
  ("rbbrk", "\u2773"),
  ("rbrace", "\x7d"),
  ("rbrack", "\x5d"),
  ("rbrke", "\u298C"),
  ("rbrksld", "\u298E"),
  ("rbrkslu", "\u2990"),
  ("rcaron", "\x15"),
  ("rcedil", "\x15"),
  ("rceil", "\u2309"),
  ("rcub", "\x7d"),
  ("rcy", "D"),
  ("rdca", "\u2937"),
  ("rdldhar", "\u2969"),
  ("rdquo", "\u201D"),
  ("rdquor", "\u201D"),
  ("rdsh", "\u21B3"),
  ("real", "\u211C"),
  ("realine", "\u211B"),
  ("realpart", "\u211C"),
  ("reals", "\u211D"),
  ("rect", "\u25AD"),
  ("reg", "\u00AE"),
  ("rfisht", "\u297D"),
  ("rfloor", "\u230B"),
  ("rfr", "\u1D52"),
  ("rhard", "\u21C1"),
  ("rharu", "\u21C0"),
  ("rharul", "\u296C"),
  ("rho", "\x3c"),
  ("rhov", "\x3f"),
  ("rightarrow", "\u2192"),
  ("rightarrowtail", "\u21A3"),
  ("rightharpoondown", "\u21C1"),
  ("rightharpoonup", "\u21C0"),
  ("rightleftarrows", "\u21C4"),
  ("rightleftharpoons", "\u21CC"),
  ("rightrightarrows", "\u21C9"),
  ("rightsquigarrow", "\u219D"),
  ("rightthreetimes", "\u22CC"),
  ("ring", "\x2d"),
  ("risingdotseq", "\u2253"),
  ("rlarr", "\u21C4"),
  ("rlhar", "\u21CC"),
  ("rlm", "\u200F"),
  ("rmoust", "\u23B1"),
  ("rmoustache", "\u23B1"),
  ("rnmid", "\u2AEE"),
  ("roang", "\u27ED"),
  ("roarr", "\u21FE"),
  ("robrk", "\u27E7"),
  ("ropar", "\u2986"),
  ("ropf", "\u1D56"),
  ("roplus", "\u2A2E"),
  ("rotimes", "\u2A35"),
  ("rpar", "\x29"),
  ("rpargt", "\u2994"),
  ("rppolint", "\u2A12"),
  ("rrarr", "\u21C9"),
  ("rsaquo", "\u203A"),
  ("rscr", "\u1D4C"),
  ("rsh", "\u21B1"),
  ("rsqb", "\x5d"),
  ("rsquo", "\u2019"),
  ("rsquor", "\u2019"),
  ("rthree", "\u22CC"),
  ("rtimes", "\u22CA"),
  ("rtri", "\u25B9"),
  ("rtrie", "\u22B5"),
  ("rtrif", "\u25B8"),
  ("rtriltri", "\u29CE"),
  ("ruluhar", "\u2968"),
  ("rx", "\u211E")
]

/-- The names that start with s. -/
def lowerS : List (String × String) := [
  ("sacute", "\x15"),
  ("sbquo", "\u201A"),
  ("sc", "\u227B"),
  ("scE", "\u2AB4"),
  ("scap", "\u2AB8"),
  ("scaron", "\x16"),
  ("sccue", "\u227D"),
  ("sce", "\u2AB0"),
  ("scedil", "\x15"),
  ("scirc", "\x15"),
  ("scnE", "\u2AB6"),
  ("scnap", "\u2ABA"),
  ("scnsim", "\u22E9"),
  ("scpolint", "\u2A13"),
  ("scsim", "\u227F"),
  ("scy", "D"),
  ("sdot", "\u22C5"),
  ("sdotb", "\u22A1"),
  ("sdote", "\u2A66"),
  ("seArr", "\u21D8"),
  ("searhk", "\u2925"),
  ("searr", "\u2198"),
  ("searrow", "\u2198"),
  ("sect", "\u00A7"),
  ("semi", "\x3b"),
  ("seswar", "\u2929"),
  ("setminus", "\u2216"),
  ("setmn", "\u2216"),
  ("sext", "\u2736"),
  ("sfr", "\u1D53"),
  ("sfrown", "\u2322"),
  ("sharp", "\u266F"),
  ("shchcy", "D"),
  ("shcy", "D"),
  ("shortmid", "\u2223"),
  ("shortparallel", "\u2225"),
  ("shy", "\u00AD"),
  ("sigma", "\x3c"),
  ("sigmaf", "\x3c"),
  ("sigmav", "\x3c"),
  ("sim", "\u223C"),
  ("simdot", "\u2A6A"),
  ("sime", "\u2243"),
  ("simeq", "\u2243"),
  ("simg", "\u2A9E"),
  ("simgE", "\u2AA0"),
  ("siml", "\u2A9D"),
  ("simlE", "\u2A9F"),
  ("simne", "\u2246"),
  ("simplus", "\u2A24"),
  ("simrarr", "\u2972"),
  ("slarr", "\u2190"),
  ("smallsetminus", "\u2216"),
  ("smashp", "\u2A33"),
  ("smeparsl", "\u29E4"),
  ("smid", "\u2223"),
  ("smile", "\u2323"),
  ("smt", "\u2AAA"),
  ("smte", "\u2AAC"),
  ("softcy", "D"),
  ("sol", "\x2f"),
  ("solb", "\u29C4"),
  ("solbar", "\u233F"),
  ("sopf", "\u1D56"),
  ("spades", "\u2660"),
  ("spadesuit", "\u2660"),
  ("spar", "\u2225"),
  ("sqcap", "\u2293"),
  ("sqcup", "\u2294"),
  ("sqsub", "\u228F"),
  ("sqsube", "\u2291"),
  ("sqsubset", "\u228F"),
  ("sqsubseteq", "\u2291"),
  ("sqsup", "\u2290"),
  ("sqsupe", "\u2292"),
  ("sqsupset", "\u2290"),
  ("sqsupseteq", "\u2292"),
  ("squ", "\u25A1"),
  ("square", "\u25A1"),
  ("squarf", "\u25AA"),
  ("squf", "\u25AA"),
  ("srarr", "\u2192"),
  ("sscr", "\u1D4C"),
  ("ssetmn", "\u2216"),
  ("ssmile", "\u2323"),
  ("sstarf", "\u22C6"),
  ("star", "\u2606"),
  ("starf", "\u2605"),
  ("straightepsilon", "\x3f"),
  ("straightphi", "\x3d"),
  ("strns", "\u00AF"),
  ("sub", "\u2282"),
  ("subE", "\u2AC5"),
  ("subdot", "\u2ABD"),
  ("sube", "\u2286"),
  ("subedot", "\u2AC3"),
  ("submult", "\u2AC1"),
  ("subnE", "\u2ACB"),
  ("subne", "\u228A"),
  ("subplus", "\u2ABF"),
  ("subrarr", "\u2979"),
  ("subset", "\u2282"),
  ("subseteq", "\u2286"),
  ("subseteqq", "\u2AC5"),
  ("subsetneq", "\u228A"),
  ("subsetneqq", "\u2ACB"),
  ("subsim", "\u2AC7"),
  ("subsub", "\u2AD5"),
  ("subsup", "\u2AD3"),
  ("succ", "\u227B"),
  ("succapprox", "\u2AB8"),
  ("succcurlyeq", "\u227D"),
  ("succeq", "\u2AB0"),
  ("succnapprox", "\u2ABA"),
  ("succneqq", "\u2AB6"),
  ("succnsim", "\u22E9"),
  ("succsim", "\u227F"),
  ("sum", "\u2211"),
  ("sung", "\u266A"),
  ("sup", "\u2283"),
  ("sup1", "\u00B9"),
  ("sup2", "\u00B2"),
  ("sup3", "\u00B3"),
  ("supE", "\u2AC6"),
  ("supdot", "\u2ABE"),
  ("supdsub", "\u2AD8"),
  ("supe", "\u2287"),
  ("supedot", "\u2AC4"),
  ("suphsub", "\u2AD7"),
  ("suplarr", "\u297B"),
  ("supmult", "\u2AC2"),
  ("supnE", "\u2ACC"),
  ("supne", "\u228B"),
  ("supplus", "\u2AC0"),
  ("supset", "\u2283"),
  ("supseteq", "\u2287"),
  ("supseteqq", "\u2AC6"),
  ("supsetneq", "\u228B"),
  ("supsetneqq", "\u2ACC"),
  ("supsim", "\u2AC8"),
  ("supsub", "\u2AD4"),
  ("supsup", "\u2AD6"),
  ("swArr", "\u21D9"),
  ("swarhk", "\u2926"),
  ("swarr", "\u2199"),
  ("swarrow", "\u2199"),
  ("swnwar", "\u292A"),
  ("szlig", "\u00DF")
]

/-- The names that start with t. -/
def lowerT : List (String × String) := [
  ("target", "\u2316"),
  ("tau", "\x3c"),
  ("tbrk", "\u23B4"),
  ("tcaron", "\x16"),
  ("tcedil", "\x16"),
  ("tcy", "D"),
  ("tdot", "\u20DB"),
  ("telrec", "\u2315"),
  ("tfr", "\u1D53"),
  ("there4", "\u2234"),
  ("therefore", "\u2234"),
  ("theta", "\x3b"),
  ("thetasym", "\x3d"),
  ("thetav", "\x3d"),
  ("thickapprox", "\u2248"),
  ("thicksim", "\u223C"),
  ("thinsp", "\u2009"),
  ("thkap", "\u2248"),
  ("thksim", "\u223C"),
  ("thorn", "\u00FE"),
  ("tilde", "\x2d"),
  ("times", "\u00D7"),
  ("timesb", "\u22A0"),
  ("timesbar", "\u2A31"),
  ("timesd", "\u2A30"),
  ("tint", "\u222D"),
  ("toea", "\u2928"),
  ("top", "\u22A4"),
  ("topbot", "\u2336"),
  ("topcir", "\u2AF1"),
  ("topf", "\u1D56"),
  ("topfork", "\u2ADA"),
  ("tosa", "\u2929"),
  ("tprime", "\u2034"),
  ("trade", "\u2122"),
  ("triangle", "\u25B5"),
  ("triangledown", "\u25BF"),
  ("triangleleft", "\u25C3"),
  ("trianglelefteq", "\u22B4"),
  ("triangleq", "\u225C"),
  ("triangleright", "\u25B9"),
  ("trianglerighteq", "\u22B5"),
  ("tridot", "\u25EC"),
  ("trie", "\u225C"),
  ("triminus", "\u2A3A"),
  ("triplus", "\u2A39"),
  ("trisb", "\u29CD"),
  ("tritime", "\u2A3B"),
  ("trpezium", "\u23E2"),
  ("tscr", "\u1D4C"),
  ("tscy", "D"),
  ("tshcy", "E"),
  ("tstrok", "\x16"),
  ("twixt", "\u226C"),
  ("twoheadleftarrow", "\u219E"),
  ("twoheadrightarrow", "\u21A0")
]

/-- The names that start with u. -/
def lowerU : List (String × String) := [
  ("uArr", "\u21D1"),
  ("uHar", "\u2963"),
  ("uacute", "\u00FA"),
  ("uarr", "\u2191"),
  ("ubrcy", "E"),
  ("ubreve", "\x16"),
  ("ucirc", "\u00FB"),
  ("ucy", "D"),
  ("udarr", "\u21C5"),
  ("udblac", "\x17"),
  ("udhar", "\u296E"),
  ("ufisht", "\u297E"),
  ("ufr", "\u1D53"),
  ("ugrave", "\u00F9"),
  ("uharl", "\u21BF"),
  ("uharr", "\u21BE"),
  ("uhblk", "\u2580"),
  ("ulcorn", "\u231C"),
  ("ulcorner", "\u231C"),
  ("ulcrop", "\u230F"),
  ("ultri", "\u25F8"),
  ("umacr", "\x16"),
  ("uml", "\u00A8"),
  ("uogon", "\x17"),
  ("uopf", "\u1D56"),
  ("uparrow", "\u2191"),
  ("updownarrow", "\u2195"),
  ("upharpoonleft", "\u21BF"),
  ("upharpoonright", "\u21BE"),
  ("uplus", "\u228E"),
  ("upsi", "\x3c"),
  ("upsih", "\x3d"),
  ("upsilon", "\x3c"),
  ("upuparrows", "\u21C8"),
  ("urcorn", "\u231D"),
  ("urcorner", "\u231D"),
  ("urcrop", "\u230E"),
  ("uring", "\x16"),
  ("urtri", "\u25F9"),
  ("uscr", "\u1D4C"),
  ("utdot", "\u22F0"),
  ("utilde", "\x16"),
  ("utri", "\u25B5"),
  ("utrif", "\u25B4"),
  ("uuarr", "\u21C8"),
  ("uuml", "\u00FC"),
  ("uwangle", "\u29A7")
]

/-- The names that start with v. -/
def lowerV : List (String × String) := [
  ("vArr", "\u21D5"),
  ("vBar", "\u2AE8"),
  ("vBarv", "\u2AE9"),
  ("vDash", "\u22A8"),
  ("vangrt", "\u299C"),
  ("varepsilon", "\x3b"),
  ("varkappa", "\x3f"),
  ("varnothing", "\u2205"),
  ("varphi", "\x3c"),
  ("varpi", "\x3d"),
  ("varpropto", "\u221D"),
  ("varr", "\u2195"),
  ("varrho", "\x3f"),
  ("varsigma", "\x3c"),
  ("vartheta", "\x3d"),
  ("vartriangleleft", "\u22B2"),
  ("vartriangleright", "\u22B3"),
  ("vcy", "C"),
  ("vdash", "\u22A2"),
  ("vee", "\u2228"),
  ("veebar", "\u22BB"),
  ("veeeq", "\u225A"),
  ("vellip", "\u22EE"),
  ("verbar", "\x7c"),
  ("vert", "\x7c"),
  ("vfr", "\u1D53"),
  ("vltri", "\u22B2"),
  ("vopf", "\u1D56"),
  ("vprop", "\u221D"),
  ("vrtri", "\u22B3"),
  ("vscr", "\u1D4C"),
  ("vzigzag", "\u299A")
]

/-- The names that start with w. -/
def lowerW : List (String × String) := [
  ("wcirc", "\x17"),
  ("wedbar", "\u2A5F"),
  ("wedge", "\u2227"),
  ("wedgeq", "\u2259"),
  ("weierp", "\u2118"),
  ("wfr", "\u1D53"),
  ("wopf", "\u1D56"),
  ("wp", "\u2118"),
  ("wr", "\u2240"),
  ("wreath", "\u2240"),
  ("wscr", "\u1D4C")
]

/-- The names that start with x. -/
def lowerX : List (String × String) := [
  ("xcap", "\u22C2"),
  ("xcirc", "\u25EF"),
  ("xcup", "\u22C3"),
  ("xdtri", "\u25BD"),
  ("xfr", "\u1D53"),
  ("xhArr", "\u27FA"),
  ("xharr", "\u27F7"),
  ("xi", "\x3b"),
  ("xlArr", "\u27F8"),
  ("xlarr", "\u27F5"),
  ("xmap", "\u27FC"),
  ("xnis", "\u22FB"),
  ("xodot", "\u2A00"),
  ("xopf", "\u1D56"),
  ("xoplus", "\u2A01"),
  ("xotime", "\u2A02"),
  ("xrArr", "\u27F9"),
  ("xrarr", "\u27F6"),
  ("xscr", "\u1D4C"),
  ("xsqcup", "\u2A06"),
  ("xuplus", "\u2A04"),
  ("xutri", "\u25B3"),
  ("xvee", "\u22C1"),
  ("xwedge", "\u22C0")
]

/-- The names that start with y. -/
def lowerY : List (String × String) := [
  ("yacute", "\u00FD"),
  ("yacy", "D"),
  ("ycirc", "\x17"),
  ("ycy", "D"),
  ("yen", "\u00A5"),
  ("yfr", "\u1D53"),
  ("yicy", "E"),
  ("yopf", "\u1D56"),
  ("yscr", "\u1D4C"),
  ("yucy", "D"),
  ("yuml", "\u00FF")
]

/-- The names that start with z. -/
def lowerZ : List (String × String) := [
  ("zacute", "\x17"),
  ("zcaron", "\x17"),
  ("zcy", "C"),
  ("zdot", "\x17"),
  ("zeetrf", "\u2128"),
  ("zeta", "\x3b"),
  ("zfr", "\u1D53"),
  ("zhcy", "C"),
  ("zigrarr", "\u21DD"),
  ("zopf", "\u1D56"),
  ("zscr", "\u1D4C"),
  ("zwj", "\u200D"),
  ("zwnj", "\u200C")
]

/-- The part of the table whose names start with a given letter. -/
def startingWith : Char → List (String × String)
  | 'A' => upperA
  | 'B' => upperB
  | 'C' => upperC
  | 'D' => upperD
  | 'E' => upperE
  | 'F' => upperF
  | 'G' => upperG
  | 'H' => upperH
  | 'I' => upperI
  | 'J' => upperJ
  | 'K' => upperK
  | 'L' => upperL
  | 'M' => upperM
  | 'N' => upperN
  | 'O' => upperO
  | 'P' => upperP
  | 'Q' => upperQ
  | 'R' => upperR
  | 'S' => upperS
  | 'T' => upperT
  | 'U' => upperU
  | 'V' => upperV
  | 'W' => upperW
  | 'X' => upperX
  | 'Y' => upperY
  | 'Z' => upperZ
  | 'a' => lowerA
  | 'b' => lowerB
  | 'c' => lowerC
  | 'd' => lowerD
  | 'e' => lowerE
  | 'f' => lowerF
  | 'g' => lowerG
  | 'h' => lowerH
  | 'i' => lowerI
  | 'j' => lowerJ
  | 'k' => lowerK
  | 'l' => lowerL
  | 'm' => lowerM
  | 'n' => lowerN
  | 'o' => lowerO
  | 'p' => lowerP
  | 'q' => lowerQ
  | 'r' => lowerR
  | 's' => lowerS
  | 't' => lowerT
  | 'u' => lowerU
  | 'v' => lowerV
  | 'w' => lowerW
  | 'x' => lowerX
  | 'y' => lowerY
  | 'z' => lowerZ
  | _ => []

/-- The text a named reference stands for, if the name is in the table. -/
def lookup (name : String) : Option String :=
  match name.toList with
  | [] => none
  | c :: _ => (startingWith c).lookup name

example : lookup "amp" = some "&" := by decide

example : lookup "Abreve" = some "\u0010" := by decide

end Stencil.Markup.Entity
