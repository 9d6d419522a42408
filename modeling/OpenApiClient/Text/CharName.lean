/-
Characters by their names.

A search pattern can give a character by its name.  The names here are those of the
common scripts and signs; the ideographs and the syllables of Hangul have names that follow
from their numbers.  The case of a name does not count, except in these two.

Names repeat the same words over and over, so they are kept short: a small letter stands
for the words that `phrases` gives it, and a semicolon ends a name.  The names of a block
belong to characters with numbers side by side.
-/

import OpenApiClient.Text.Digit
import OpenApiClient.Text.Split

set_option autoImplicit false

namespace OpenApiClient.Text

/-! ## Names that are listed -/

/-- What the small letters stand for.  A later one can stand for what holds earlier ones. -/
def phrases : List (Char × String) := [
  ('a', " LETTER "),
  ('b', " WITH "),
  ('c', "LATIN "),
  ('d', "CYRILLIC "),
  ('e', "BOX DRAWINGS "),
  ('f', "MATHEMATICAL BOLD "),
  ('g', " AND "),
  ('h', "FULLWIDTH "),
  ('i', "WHITE "),
  ('j', "ARMENIAN "),
  ('k', "GREEK "),
  ('l', " SYMBOL"),
  ('m', " SIGN"),
  ('n', "BLACK "),
  ('o', " ARROW"),
  ('p', "ROMAN NUMERAL "),
  ('q', " BELOW"),
  ('r', "DINGBAT NEGATIVE CIRCLED "),
  ('s', "COMBINING "),
  ('t', "RIGHT "),
  ('u', "DIGIT "),
  ('v', " ABOVE"),
  ('w', " EQUAL TO"),
  ('x', "LEFT "),
  ('y', " QUOTATION MARK"),
  ('z', " FACE")]

/-- Blocks of names: the number of the first character, and the short names in lines. -/
def nameBlocks : List (Nat × List String) := [
  (0x20, [
    "SPACE;EXCLAMATION MARK;QUOTATION MARK;NUMBERm;DOLLARm;PERCENTm;AMPERSAND;APOSTROPHE;xPAREN",
    "THESIS;tPARENTHESIS;ASTERISK;PLUSm;COMMA;HYPHEN-MINUS;FULL STOP;SOLIDUS;uZERO;uONE;uTWO;uT",
    "HREE;uFOUR;uFIVE;uSIX;uSEVEN;uEIGHT;uNINE;COLON;SEMICOLON;LESS-THANm;EQUALSm;GREATER-THANm",
    ";QUESTION MARK;COMMERCIAL AT;cCAPITALaA;cCAPITALaB;cCAPITALaC;cCAPITALaD;cCAPITALaE;cCAPIT",
    "ALaF;cCAPITALaG;cCAPITALaH;cCAPITALaI;cCAPITALaJ;cCAPITALaK;cCAPITALaL;cCAPITALaM;cCAPITAL",
    "aN;cCAPITALaO;cCAPITALaP;cCAPITALaQ;cCAPITALaR;cCAPITALaS;cCAPITALaT;cCAPITALaU;cCAPITALaV",
    ";cCAPITALaW;cCAPITALaX;cCAPITALaY;cCAPITALaZ;xSQUARE BRACKET;REVERSE SOLIDUS;tSQUARE BRACK",
    "ET;CIRCUMFLEX ACCENT;LOW LINE;GRAVE ACCENT;cSMALLaA;cSMALLaB;cSMALLaC;cSMALLaD;cSMALLaE;cS",
    "MALLaF;cSMALLaG;cSMALLaH;cSMALLaI;cSMALLaJ;cSMALLaK;cSMALLaL;cSMALLaM;cSMALLaN;cSMALLaO;cS",
    "MALLaP;cSMALLaQ;cSMALLaR;cSMALLaS;cSMALLaT;cSMALLaU;cSMALLaV;cSMALLaW;cSMALLaX;cSMALLaY;cS",
    "MALLaZ;xCURLY BRACKET;VERTICAL LINE;tCURLY BRACKET;TILDE"]),
  (0xA0, [
    "NO-BREAK SPACE;INVERTED EXCLAMATION MARK;CENTm;POUNDm;CURRENCYm;YENm;BROKEN BAR;SECTIONm;D",
    "IAERESIS;COPYRIGHTm;FEMININE ORDINAL INDICATOR;LEFT-POINTING DOUBLE ANGLEy;NOTm;SOFT HYPHE",
    "N;REGISTEREDm;MACRON;DEGREEm;PLUS-MINUSm;SUPERSCRIPT TWO;SUPERSCRIPT THREE;ACUTE ACCENT;MI",
    "CROm;PILCROWm;MIDDLE DOT;CEDILLA;SUPERSCRIPT ONE;MASCULINE ORDINAL INDICATOR;RIGHT-POINTIN",
    "G DOUBLE ANGLEy;VULGAR FRACTION ONE QUARTER;VULGAR FRACTION ONE HALF;VULGAR FRACTION THRE",
    "E QUARTERS;INVERTED QUESTION MARK;cCAPITALaAbGRAVE;cCAPITALaAbACUTE;cCAPITALaAbCIRCUMFLEX;",
    "cCAPITALaAbTILDE;cCAPITALaAbDIAERESIS;cCAPITALaAbRINGv;cCAPITALaAE;cCAPITALaCbCEDILLA;cCAP",
    "ITALaEbGRAVE;cCAPITALaEbACUTE;cCAPITALaEbCIRCUMFLEX;cCAPITALaEbDIAERESIS;cCAPITALaIbGRAVE;",
    "cCAPITALaIbACUTE;cCAPITALaIbCIRCUMFLEX;cCAPITALaIbDIAERESIS;cCAPITALaETH;cCAPITALaNbTILDE;",
    "cCAPITALaObGRAVE;cCAPITALaObACUTE;cCAPITALaObCIRCUMFLEX;cCAPITALaObTILDE;cCAPITALaObDIAERE",
    "SIS;MULTIPLICATIONm;cCAPITALaObSTROKE;cCAPITALaUbGRAVE;cCAPITALaUbACUTE;cCAPITALaUbCIRCUMF",
    "LEX;cCAPITALaUbDIAERESIS;cCAPITALaYbACUTE;cCAPITALaTHORN;cSMALLaSHARP S;cSMALLaAbGRAVE;cSM",
    "ALLaAbACUTE;cSMALLaAbCIRCUMFLEX;cSMALLaAbTILDE;cSMALLaAbDIAERESIS;cSMALLaAbRINGv;cSMALLaAE",
    ";cSMALLaCbCEDILLA;cSMALLaEbGRAVE;cSMALLaEbACUTE;cSMALLaEbCIRCUMFLEX;cSMALLaEbDIAERESIS;cSM",
    "ALLaIbGRAVE;cSMALLaIbACUTE;cSMALLaIbCIRCUMFLEX;cSMALLaIbDIAERESIS;cSMALLaETH;cSMALLaNbTILD",
    "E;cSMALLaObGRAVE;cSMALLaObACUTE;cSMALLaObCIRCUMFLEX;cSMALLaObTILDE;cSMALLaObDIAERESIS;DIVI",
    "SIONm;cSMALLaObSTROKE;cSMALLaUbGRAVE;cSMALLaUbACUTE;cSMALLaUbCIRCUMFLEX;cSMALLaUbDIAERESIS",
    ";cSMALLaYbACUTE;cSMALLaTHORN;cSMALLaYbDIAERESIS;cCAPITALaAbMACRON;cSMALLaAbMACRON;cCAPITAL",
    "aAbBREVE;cSMALLaAbBREVE;cCAPITALaAbOGONEK;cSMALLaAbOGONEK;cCAPITALaCbACUTE;cSMALLaCbACUTE;",
    "cCAPITALaCbCIRCUMFLEX;cSMALLaCbCIRCUMFLEX;cCAPITALaCbDOTv;cSMALLaCbDOTv;cCAPITALaCbCARON;c",
    "SMALLaCbCARON;cCAPITALaDbCARON;cSMALLaDbCARON;cCAPITALaDbSTROKE;cSMALLaDbSTROKE;cCAPITALaE",
    "bMACRON;cSMALLaEbMACRON;cCAPITALaEbBREVE;cSMALLaEbBREVE;cCAPITALaEbDOTv;cSMALLaEbDOTv;cCAP",
    "ITALaEbOGONEK;cSMALLaEbOGONEK;cCAPITALaEbCARON;cSMALLaEbCARON;cCAPITALaGbCIRCUMFLEX;cSMALL",
    "aGbCIRCUMFLEX;cCAPITALaGbBREVE;cSMALLaGbBREVE;cCAPITALaGbDOTv;cSMALLaGbDOTv;cCAPITALaGbCED",
    "ILLA;cSMALLaGbCEDILLA;cCAPITALaHbCIRCUMFLEX;cSMALLaHbCIRCUMFLEX;cCAPITALaHbSTROKE;cSMALLaH",
    "bSTROKE;cCAPITALaIbTILDE;cSMALLaIbTILDE;cCAPITALaIbMACRON;cSMALLaIbMACRON;cCAPITALaIbBREVE",
    ";cSMALLaIbBREVE;cCAPITALaIbOGONEK;cSMALLaIbOGONEK;cCAPITALaIbDOTv;cSMALLaDOTLESS I;cCAPITA",
    "L LIGATURE IJ;cSMALL LIGATURE IJ;cCAPITALaJbCIRCUMFLEX;cSMALLaJbCIRCUMFLEX;cCAPITALaKbCEDI",
    "LLA;cSMALLaKbCEDILLA;cSMALLaKRA;cCAPITALaLbACUTE;cSMALLaLbACUTE;cCAPITALaLbCEDILLA;cSMALLa",
    "LbCEDILLA;cCAPITALaLbCARON;cSMALLaLbCARON;cCAPITALaLbMIDDLE DOT;cSMALLaLbMIDDLE DOT;cCAPIT",
    "ALaLbSTROKE;cSMALLaLbSTROKE;cCAPITALaNbACUTE;cSMALLaNbACUTE;cCAPITALaNbCEDILLA;cSMALLaNbCE",
    "DILLA;cCAPITALaNbCARON;cSMALLaNbCARON;cSMALLaN PRECEDED BY APOSTROPHE;cCAPITALaENG;cSMALLa",
    "ENG;cCAPITALaObMACRON;cSMALLaObMACRON;cCAPITALaObBREVE;cSMALLaObBREVE;cCAPITALaObDOUBLE AC",
    "UTE;cSMALLaObDOUBLE ACUTE;cCAPITAL LIGATURE OE;cSMALL LIGATURE OE;cCAPITALaRbACUTE;cSMALLa",
    "RbACUTE;cCAPITALaRbCEDILLA;cSMALLaRbCEDILLA;cCAPITALaRbCARON;cSMALLaRbCARON;cCAPITALaSbACU",
    "TE;cSMALLaSbACUTE;cCAPITALaSbCIRCUMFLEX;cSMALLaSbCIRCUMFLEX;cCAPITALaSbCEDILLA;cSMALLaSbCE",
    "DILLA;cCAPITALaSbCARON;cSMALLaSbCARON;cCAPITALaTbCEDILLA;cSMALLaTbCEDILLA;cCAPITALaTbCARON",
    ";cSMALLaTbCARON;cCAPITALaTbSTROKE;cSMALLaTbSTROKE;cCAPITALaUbTILDE;cSMALLaUbTILDE;cCAPITAL",
    "aUbMACRON;cSMALLaUbMACRON;cCAPITALaUbBREVE;cSMALLaUbBREVE;cCAPITALaUbRINGv;cSMALLaUbRINGv;",
    "cCAPITALaUbDOUBLE ACUTE;cSMALLaUbDOUBLE ACUTE;cCAPITALaUbOGONEK;cSMALLaUbOGONEK;cCAPITALaW",
    "bCIRCUMFLEX;cSMALLaWbCIRCUMFLEX;cCAPITALaYbCIRCUMFLEX;cSMALLaYbCIRCUMFLEX;cCAPITALaYbDIAER",
    "ESIS;cCAPITALaZbACUTE;cSMALLaZbACUTE;cCAPITALaZbDOTv;cSMALLaZbDOTv;cCAPITALaZbCARON;cSMALL",
    "aZbCARON;cSMALLaLONG S;cSMALLaBbSTROKE;cCAPITALaBbHOOK;cCAPITALaBbTOPBAR;cSMALLaBbTOPBAR;c",
    "CAPITALaTONE SIX;cSMALLaTONE SIX;cCAPITALaOPEN O;cCAPITALaCbHOOK;cSMALLaCbHOOK;cCAPITALaAF",
    "RICAN D;cCAPITALaDbHOOK;cCAPITALaDbTOPBAR;cSMALLaDbTOPBAR;cSMALLaTURNED DELTA;cCAPITALaREV",
    "ERSED E;cCAPITALaSCHWA;cCAPITALaOPEN E;cCAPITALaFbHOOK;cSMALLaFbHOOK;cCAPITALaGbHOOK;cCAPI",
    "TALaGAMMA;cSMALLaHV;cCAPITALaIOTA;cCAPITALaIbSTROKE;cCAPITALaKbHOOK;cSMALLaKbHOOK;cSMALLaL",
    "bBAR;cSMALLaLAMBDAbSTROKE;cCAPITALaTURNED M;cCAPITALaNbxHOOK;cSMALLaNbLONG tLEG;cCAPITALaO",
    "bMIDDLE TILDE;cCAPITALaObHORN;cSMALLaObHORN;cCAPITALaOI;cSMALLaOI;cCAPITALaPbHOOK;cSMALLaP",
    "bHOOK;LATINaYR;cCAPITALaTONE TWO;cSMALLaTONE TWO;cCAPITALaESH;LATINaREVERSED ESH LOOP;cSMA",
    "LLaTbPALATAL HOOK;cCAPITALaTbHOOK;cSMALLaTbHOOK;cCAPITALaTbRETROFLEX HOOK;cCAPITALaUbHORN;",
    "cSMALLaUbHORN;cCAPITALaUPSILON;cCAPITALaVbHOOK;cCAPITALaYbHOOK;cSMALLaYbHOOK;cCAPITALaZbST",
    "ROKE;cSMALLaZbSTROKE;cCAPITALaEZH;cCAPITALaEZH REVERSED;cSMALLaEZH REVERSED;cSMALLaEZHbTAI",
    "L;LATINaTWObSTROKE;cCAPITALaTONE FIVE;cSMALLaTONE FIVE;LATINaINVERTED GLOTTAL STOPbSTROKE;",
    "LATINaWYNN;LATINaDENTAL CLICK;LATINaLATERAL CLICK;LATINaALVEOLAR CLICK;LATINaRETROFLEX CLI",
    "CK;cCAPITALaDZbCARON;cCAPITALaDbSMALLaZbCARON;cSMALLaDZbCARON;cCAPITALaLJ;cCAPITALaLbSMALL",
    "aJ;cSMALLaLJ;cCAPITALaNJ;cCAPITALaNbSMALLaJ;cSMALLaNJ;cCAPITALaAbCARON;cSMALLaAbCARON;cCAP",
    "ITALaIbCARON;cSMALLaIbCARON;cCAPITALaObCARON;cSMALLaObCARON;cCAPITALaUbCARON;cSMALLaUbCARO",
    "N;cCAPITALaUbDIAERESISgMACRON;cSMALLaUbDIAERESISgMACRON;cCAPITALaUbDIAERESISgACUTE;cSMALLa",
    "UbDIAERESISgACUTE;cCAPITALaUbDIAERESISgCARON;cSMALLaUbDIAERESISgCARON;cCAPITALaUbDIAERESIS",
    "gGRAVE;cSMALLaUbDIAERESISgGRAVE;cSMALLaTURNED E;cCAPITALaAbDIAERESISgMACRON;cSMALLaAbDIAER",
    "ESISgMACRON;cCAPITALaAbDOTvgMACRON;cSMALLaAbDOTvgMACRON;cCAPITALaAEbMACRON;cSMALLaAEbMACRO",
    "N;cCAPITALaGbSTROKE;cSMALLaGbSTROKE;cCAPITALaGbCARON;cSMALLaGbCARON;cCAPITALaKbCARON;cSMAL",
    "LaKbCARON;cCAPITALaObOGONEK;cSMALLaObOGONEK;cCAPITALaObOGONEKgMACRON;cSMALLaObOGONEKgMACRO",
    "N;cCAPITALaEZHbCARON;cSMALLaEZHbCARON;cSMALLaJbCARON;cCAPITALaDZ;cCAPITALaDbSMALLaZ;cSMALL",
    "aDZ;cCAPITALaGbACUTE;cSMALLaGbACUTE;cCAPITALaHWAIR;cCAPITALaWYNN;cCAPITALaNbGRAVE;cSMALLaN",
    "bGRAVE;cCAPITALaAbRINGvgACUTE;cSMALLaAbRINGvgACUTE;cCAPITALaAEbACUTE;cSMALLaAEbACUTE;cCAPI",
    "TALaObSTROKEgACUTE;cSMALLaObSTROKEgACUTE;cCAPITALaAbDOUBLE GRAVE;cSMALLaAbDOUBLE GRAVE;cCA",
    "PITALaAbINVERTED BREVE;cSMALLaAbINVERTED BREVE;cCAPITALaEbDOUBLE GRAVE;cSMALLaEbDOUBLE GRA",
    "VE;cCAPITALaEbINVERTED BREVE;cSMALLaEbINVERTED BREVE;cCAPITALaIbDOUBLE GRAVE;cSMALLaIbDOUB",
    "LE GRAVE;cCAPITALaIbINVERTED BREVE;cSMALLaIbINVERTED BREVE;cCAPITALaObDOUBLE GRAVE;cSMALLa",
    "ObDOUBLE GRAVE;cCAPITALaObINVERTED BREVE;cSMALLaObINVERTED BREVE;cCAPITALaRbDOUBLE GRAVE;c",
    "SMALLaRbDOUBLE GRAVE;cCAPITALaRbINVERTED BREVE;cSMALLaRbINVERTED BREVE;cCAPITALaUbDOUBLE G",
    "RAVE;cSMALLaUbDOUBLE GRAVE;cCAPITALaUbINVERTED BREVE;cSMALLaUbINVERTED BREVE;cCAPITALaSbCO",
    "MMAq;cSMALLaSbCOMMAq;cCAPITALaTbCOMMAq;cSMALLaTbCOMMAq;cCAPITALaYOGH;cSMALLaYOGH;cCAPITALa",
    "HbCARON;cSMALLaHbCARON;cCAPITALaNbLONG tLEG;cSMALLaDbCURL;cCAPITALaOU;cSMALLaOU;cCAPITALaZ",
    "bHOOK;cSMALLaZbHOOK;cCAPITALaAbDOTv;cSMALLaAbDOTv;cCAPITALaEbCEDILLA;cSMALLaEbCEDILLA;cCAP",
    "ITALaObDIAERESISgMACRON;cSMALLaObDIAERESISgMACRON;cCAPITALaObTILDEgMACRON;cSMALLaObTILDEgM",
    "ACRON;cCAPITALaObDOTv;cSMALLaObDOTv;cCAPITALaObDOTvgMACRON;cSMALLaObDOTvgMACRON;cCAPITALaY",
    "bMACRON;cSMALLaYbMACRON;cSMALLaLbCURL;cSMALLaNbCURL;cSMALLaTbCURL;cSMALLaDOTLESS J;cSMALLa",
    "DB DIGRAPH;cSMALLaQP DIGRAPH;cCAPITALaAbSTROKE;cCAPITALaCbSTROKE;cSMALLaCbSTROKE;cCAPITALa",
    "LbBAR;cCAPITALaTbDIAGONAL STROKE;cSMALLaSbSWASH TAIL;cSMALLaZbSWASH TAIL;cCAPITALaGLOTTA",
    "L STOP;cSMALLaGLOTTAL STOP;cCAPITALaBbSTROKE;cCAPITALaU BAR;cCAPITALaTURNED V;cCAPITALaEbS",
    "TROKE;cSMALLaEbSTROKE;cCAPITALaJbSTROKE;cSMALLaJbSTROKE;cCAPITALaSMALL QbHOOK TAIL;cSMALLa",
    "QbHOOK TAIL;cCAPITALaRbSTROKE;cSMALLaRbSTROKE;cCAPITALaYbSTROKE;cSMALLaYbSTROKE"]),
  (0x2B0, [
    "MODIFIERaSMALL H;MODIFIERaSMALL HbHOOK;MODIFIERaSMALL J;MODIFIERaSMALL R;MODIFIERaSMALL TU",
    "RNED R;MODIFIERaSMALL TURNED RbHOOK;MODIFIERaSMALL CAPITAL INVERTED R;MODIFIERaSMALL W;MOD",
    "IFIERaSMALL Y;MODIFIERaPRIME;MODIFIERaDOUBLE PRIME;MODIFIERaTURNED COMMA;MODIFIERaAPOSTROP",
    "HE;MODIFIERaREVERSED COMMA;MODIFIERatHALF RING;MODIFIERaxHALF RING;MODIFIERaGLOTTAL STOP;M",
    "ODIFIERaREVERSED GLOTTAL STOP;MODIFIERaLEFToHEAD;MODIFIERaRIGHToHEAD;MODIFIERaUPoHEAD;MODI",
    "FIERaDOWNoHEAD;MODIFIERaCIRCUMFLEX ACCENT;CARON;MODIFIERaVERTICAL LINE;MODIFIERaMACRON;MOD",
    "IFIERaACUTE ACCENT;MODIFIERaGRAVE ACCENT;MODIFIERaLOW VERTICAL LINE;MODIFIERaLOW MACRON;MO",
    "DIFIERaLOW GRAVE ACCENT;MODIFIERaLOW ACUTE ACCENT;MODIFIERaTRIANGULAR COLON;MODIFIERaHAL",
    "F TRIANGULAR COLON;MODIFIERaCENTRED tHALF RING;MODIFIERaCENTRED xHALF RING;MODIFIERaUP TAC",
    "K;MODIFIERaDOWN TACK;MODIFIERaPLUSm;MODIFIERaMINUSm;BREVE;DOTv;RINGv;OGONEK;SMALL TILDE;DO",
    "UBLE ACUTE ACCENT"]),
  (0x300, [
    "sGRAVE ACCENT;sACUTE ACCENT;sCIRCUMFLEX ACCENT;sTILDE;sMACRON;sOVERLINE;sBREVE;sDOTv;sDIAE",
    "RESIS;sHOOKv;sRINGv;sDOUBLE ACUTE ACCENT;sCARON;sVERTICAL LINEv;sDOUBLE VERTICAL LINEv;sDO",
    "UBLE GRAVE ACCENT;sCANDRABINDU;sINVERTED BREVE;sTURNED COMMAv;sCOMMAv;sREVERSED COMMAv;sCO",
    "MMAv RIGHT;sGRAVE ACCENTq;sACUTE ACCENTq;sxTACKq;stTACKq;sxANGLEv;sHORN;sxHALF RINGq;sUP T",
    "ACKq;sDOWN TACKq;sPLUSmq;sMINUSmq;sPALATALIZED HOOKq;sRETROFLEX HOOKq;sDOTq;sDIAERESISq;sR",
    "INGq;sCOMMAq;sCEDILLA;sOGONEK;sVERTICAL LINEq;sBRIDGEq;sINVERTED DOUBLE ARCHq;sCARONq;sCIR",
    "CUMFLEX ACCENTq;sBREVEq;sINVERTED BREVEq;sTILDEq;sMACRONq;sLOW LINE;sDOUBLE LOW LINE"]),
  (0x370, [
    "kCAPITALaHETA;kSMALLaHETA;kCAPITALaARCHAIC SAMPI;kSMALLaARCHAIC SAMPI;kNUMERALm;kLOWER NUM",
    "ERALm;kCAPITALaPAMPHYLIAN DIGAMMA;kSMALLaPAMPHYLIAN DIGAMMA"]),
  (0x37A, [
    "kYPOGEGRAMMENI;kSMALL REVERSED LUNATE SIGMAl;kSMALL DOTTED LUNATE SIGMAl;kSMALL REVERSED D",
    "OTTED LUNATE SIGMAl;kQUESTION MARK;kCAPITALaYOT"]),
  (0x384, [
    "kTONOS;kDIALYTIKA TONOS;kCAPITALaALPHAbTONOS;kANO TELEIA;kCAPITALaEPSILONbTONOS;kCAPITALaE",
    "TAbTONOS;kCAPITALaIOTAbTONOS"]),
  (0x38C, ["kCAPITALaOMICRONbTONOS"]),
  (0x38E, [
    "kCAPITALaUPSILONbTONOS;kCAPITALaOMEGAbTONOS;kSMALLaIOTAbDIALYTIKAgTONOS;kCAPITALaALPHA;kCA",
    "PITALaBETA;kCAPITALaGAMMA;kCAPITALaDELTA;kCAPITALaEPSILON;kCAPITALaZETA;kCAPITALaETA;kCAPI",
    "TALaTHETA;kCAPITALaIOTA;kCAPITALaKAPPA;kCAPITALaLAMDA;kCAPITALaMU;kCAPITALaNU;kCAPITALaXI;",
    "kCAPITALaOMICRON;kCAPITALaPI;kCAPITALaRHO"]),
  (0x3A3, [
    "kCAPITALaSIGMA;kCAPITALaTAU;kCAPITALaUPSILON;kCAPITALaPHI;kCAPITALaCHI;kCAPITALaPSI;kCAPIT",
    "ALaOMEGA;kCAPITALaIOTAbDIALYTIKA;kCAPITALaUPSILONbDIALYTIKA;kSMALLaALPHAbTONOS;kSMALLaEPSI",
    "LONbTONOS;kSMALLaETAbTONOS;kSMALLaIOTAbTONOS;kSMALLaUPSILONbDIALYTIKAgTONOS;kSMALLaALPHA;k",
    "SMALLaBETA;kSMALLaGAMMA;kSMALLaDELTA;kSMALLaEPSILON;kSMALLaZETA;kSMALLaETA;kSMALLaTHETA;kS",
    "MALLaIOTA;kSMALLaKAPPA;kSMALLaLAMDA;kSMALLaMU;kSMALLaNU;kSMALLaXI;kSMALLaOMICRON;kSMALLaPI",
    ";kSMALLaRHO;kSMALLaFINAL SIGMA;kSMALLaSIGMA;kSMALLaTAU;kSMALLaUPSILON;kSMALLaPHI;kSMALLaCH",
    "I;kSMALLaPSI;kSMALLaOMEGA;kSMALLaIOTAbDIALYTIKA;kSMALLaUPSILONbDIALYTIKA;kSMALLaOMICRONbTO",
    "NOS;kSMALLaUPSILONbTONOS;kSMALLaOMEGAbTONOS;kCAPITAL KAIl;kBETAl;kTHETAl;kUPSILONbHOOKl;kU",
    "PSILONbACUTEgHOOKl;kUPSILONbDIAERESISgHOOKl;kPHIl;kPIl;kKAIl;GREEKaARCHAIC KOPPA;kSMALLaAR",
    "CHAIC KOPPA;GREEKaSTIGMA;kSMALLaSTIGMA;GREEKaDIGAMMA;kSMALLaDIGAMMA;GREEKaKOPPA;kSMALLaKOP",
    "PA;GREEKaSAMPI;kSMALLaSAMPI;COPTIC CAPITALaSHEI;COPTIC SMALLaSHEI;COPTIC CAPITALaFEI;COPTI",
    "C SMALLaFEI;COPTIC CAPITALaKHEI;COPTIC SMALLaKHEI;COPTIC CAPITALaHORI;COPTIC SMALLaHORI;CO",
    "PTIC CAPITALaGANGIA;COPTIC SMALLaGANGIA;COPTIC CAPITALaSHIMA;COPTIC SMALLaSHIMA;COPTIC CAP",
    "ITALaDEI;COPTIC SMALLaDEI;kKAPPAl;kRHOl;kLUNATE SIGMAl;GREEKaYOT;kCAPITAL THETAl;kLUNATE E",
    "PSILONl;kREVERSED LUNATE EPSILONl;kCAPITALaSHO;kSMALLaSHO;kCAPITAL LUNATE SIGMAl;kCAPITALa",
    "SAN;kSMALLaSAN;kRHObSTROKEl;kCAPITAL REVERSED LUNATE SIGMAl;kCAPITAL DOTTED LUNATE SIGMAl;",
    "kCAPITAL REVERSED DOTTED LUNATE SIGMAl;dCAPITALaIEbGRAVE;dCAPITALaIO;dCAPITALaDJE;dCAPITAL",
    "aGJE;dCAPITALaUKRAINIAN IE;dCAPITALaDZE;dCAPITALaBYELORUSSIAN-UKRAINIAN I;dCAPITALaYI;dCAP",
    "ITALaJE;dCAPITALaLJE;dCAPITALaNJE;dCAPITALaTSHE;dCAPITALaKJE;dCAPITALaIbGRAVE;dCAPITALaSHO",
    "RT U;dCAPITALaDZHE;dCAPITALaA;dCAPITALaBE;dCAPITALaVE;dCAPITALaGHE;dCAPITALaDE;dCAPITALaIE",
    ";dCAPITALaZHE;dCAPITALaZE;dCAPITALaI;dCAPITALaSHORT I;dCAPITALaKA;dCAPITALaEL;dCAPITALaEM;",
    "dCAPITALaEN;dCAPITALaO;dCAPITALaPE;dCAPITALaER;dCAPITALaES;dCAPITALaTE;dCAPITALaU;dCAPITAL",
    "aEF;dCAPITALaHA;dCAPITALaTSE;dCAPITALaCHE;dCAPITALaSHA;dCAPITALaSHCHA;dCAPITALaHARDm;dCAPI",
    "TALaYERU;dCAPITALaSOFTm;dCAPITALaE;dCAPITALaYU;dCAPITALaYA;dSMALLaA;dSMALLaBE;dSMALLaVE;dS",
    "MALLaGHE;dSMALLaDE;dSMALLaIE;dSMALLaZHE;dSMALLaZE;dSMALLaI;dSMALLaSHORT I;dSMALLaKA;dSMALL",
    "aEL;dSMALLaEM;dSMALLaEN;dSMALLaO;dSMALLaPE;dSMALLaER;dSMALLaES;dSMALLaTE;dSMALLaU;dSMALLaE",
    "F;dSMALLaHA;dSMALLaTSE;dSMALLaCHE;dSMALLaSHA;dSMALLaSHCHA;dSMALLaHARDm;dSMALLaYERU;dSMALLa",
    "SOFTm;dSMALLaE;dSMALLaYU;dSMALLaYA;dSMALLaIEbGRAVE;dSMALLaIO;dSMALLaDJE;dSMALLaGJE;dSMALLa",
    "UKRAINIAN IE;dSMALLaDZE;dSMALLaBYELORUSSIAN-UKRAINIAN I;dSMALLaYI;dSMALLaJE;dSMALLaLJE;dSM",
    "ALLaNJE;dSMALLaTSHE;dSMALLaKJE;dSMALLaIbGRAVE;dSMALLaSHORT U;dSMALLaDZHE"]),
  (0x490, [
    "dCAPITALaGHEbUPTURN;dSMALLaGHEbUPTURN;dCAPITALaGHEbSTROKE;dSMALLaGHEbSTROKE;dCAPITALaGHEbM",
    "IDDLE HOOK;dSMALLaGHEbMIDDLE HOOK;dCAPITALaZHEbDESCENDER;dSMALLaZHEbDESCENDER;dCAPITALaZEb",
    "DESCENDER;dSMALLaZEbDESCENDER;dCAPITALaKAbDESCENDER;dSMALLaKAbDESCENDER;dCAPITALaKAbVERTIC",
    "AL STROKE;dSMALLaKAbVERTICAL STROKE;dCAPITALaKAbSTROKE;dSMALLaKAbSTROKE;dCAPITALaBASHKIR K",
    "A;dSMALLaBASHKIR KA;dCAPITALaENbDESCENDER;dSMALLaENbDESCENDER;dCAPITAL LIGATURE EN GHE;dSM",
    "ALL LIGATURE EN GHE;dCAPITALaPEbMIDDLE HOOK;dSMALLaPEbMIDDLE HOOK;dCAPITALaABKHASIAN HA;dS",
    "MALLaABKHASIAN HA;dCAPITALaESbDESCENDER;dSMALLaESbDESCENDER;dCAPITALaTEbDESCENDER;dSMALLaT",
    "EbDESCENDER;dCAPITALaSTRAIGHT U;dSMALLaSTRAIGHT U;dCAPITALaSTRAIGHT UbSTROKE;dSMALLaSTRAIG",
    "HT UbSTROKE;dCAPITALaHAbDESCENDER;dSMALLaHAbDESCENDER;dCAPITAL LIGATURE TE TSE;dSMALL LIGA",
    "TURE TE TSE;dCAPITALaCHEbDESCENDER;dSMALLaCHEbDESCENDER;dCAPITALaCHEbVERTICAL STROKE;dSMAL",
    "LaCHEbVERTICAL STROKE;dCAPITALaSHHA;dSMALLaSHHA;dCAPITALaABKHASIAN CHE;dSMALLaABKHASIAN CH",
    "E;dCAPITALaABKHASIAN CHEbDESCENDER;dSMALLaABKHASIAN CHEbDESCENDER;CYRILLICaPALOCHKA;dCAPIT",
    "ALaZHEbBREVE;dSMALLaZHEbBREVE;dCAPITALaKAbHOOK;dSMALLaKAbHOOK;dCAPITALaELbTAIL;dSMALLaELbT",
    "AIL;dCAPITALaENbHOOK;dSMALLaENbHOOK;dCAPITALaENbTAIL;dSMALLaENbTAIL;dCAPITALaKHAKASSIAN CH",
    "E;dSMALLaKHAKASSIAN CHE;dCAPITALaEMbTAIL;dSMALLaEMbTAIL;dSMALLaPALOCHKA;dCAPITALaAbBREVE;d",
    "SMALLaAbBREVE;dCAPITALaAbDIAERESIS;dSMALLaAbDIAERESIS;dCAPITAL LIGATURE A IE;dSMALL LIGATU",
    "RE A IE;dCAPITALaIEbBREVE;dSMALLaIEbBREVE;dCAPITALaSCHWA;dSMALLaSCHWA;dCAPITALaSCHWAbDIAER",
    "ESIS;dSMALLaSCHWAbDIAERESIS;dCAPITALaZHEbDIAERESIS;dSMALLaZHEbDIAERESIS;dCAPITALaZEbDIAERE",
    "SIS;dSMALLaZEbDIAERESIS;dCAPITALaABKHASIAN DZE;dSMALLaABKHASIAN DZE;dCAPITALaIbMACRON;dSMA",
    "LLaIbMACRON;dCAPITALaIbDIAERESIS;dSMALLaIbDIAERESIS;dCAPITALaObDIAERESIS;dSMALLaObDIAERESI",
    "S;dCAPITALaBARRED O;dSMALLaBARRED O;dCAPITALaBARRED ObDIAERESIS;dSMALLaBARRED ObDIAERESIS;",
    "dCAPITALaEbDIAERESIS;dSMALLaEbDIAERESIS;dCAPITALaUbMACRON;dSMALLaUbMACRON;dCAPITALaUbDIAER",
    "ESIS;dSMALLaUbDIAERESIS;dCAPITALaUbDOUBLE ACUTE;dSMALLaUbDOUBLE ACUTE;dCAPITALaCHEbDIAERES",
    "IS;dSMALLaCHEbDIAERESIS;dCAPITALaGHEbDESCENDER;dSMALLaGHEbDESCENDER;dCAPITALaYERUbDIAERESI",
    "S;dSMALLaYERUbDIAERESIS;dCAPITALaGHEbSTROKEgHOOK;dSMALLaGHEbSTROKEgHOOK;dCAPITALaHAbHOOK;d",
    "SMALLaHAbHOOK;dCAPITALaHAbSTROKE;dSMALLaHAbSTROKE"]),
  (0x531, [
    "jCAPITALaAYB;jCAPITALaBEN;jCAPITALaGIM;jCAPITALaDA;jCAPITALaECH;jCAPITALaZA;jCAPITALaEH;jC",
    "APITALaET;jCAPITALaTO;jCAPITALaZHE;jCAPITALaINI;jCAPITALaLIWN;jCAPITALaXEH;jCAPITALaCA;jCA",
    "PITALaKEN;jCAPITALaHO;jCAPITALaJA;jCAPITALaGHAD;jCAPITALaCHEH;jCAPITALaMEN;jCAPITALaYI;jCA",
    "PITALaNOW;jCAPITALaSHA;jCAPITALaVO;jCAPITALaCHA;jCAPITALaPEH;jCAPITALaJHEH;jCAPITALaRA;jCA",
    "PITALaSEH;jCAPITALaVEW;jCAPITALaTIWN;jCAPITALaREH;jCAPITALaCO;jCAPITALaYIWN;jCAPITALaPIWR;",
    "jCAPITALaKEH;jCAPITALaOH;jCAPITALaFEH"]),
  (0x559, [
    "jMODIFIERaxHALF RING;jAPOSTROPHE;jEMPHASIS MARK;jEXCLAMATION MARK;jCOMMA;jQUESTION MARK;jA",
    "BBREVIATION MARK;jSMALLaTURNED AYB;jSMALLaAYB;jSMALLaBEN;jSMALLaGIM;jSMALLaDA;jSMALLaECH;j",
    "SMALLaZA;jSMALLaEH;jSMALLaET;jSMALLaTO;jSMALLaZHE;jSMALLaINI;jSMALLaLIWN;jSMALLaXEH;jSMALL",
    "aCA;jSMALLaKEN;jSMALLaHO;jSMALLaJA;jSMALLaGHAD;jSMALLaCHEH;jSMALLaMEN;jSMALLaYI;jSMALLaNOW",
    ";jSMALLaSHA;jSMALLaVO;jSMALLaCHA;jSMALLaPEH;jSMALLaJHEH;jSMALLaRA;jSMALLaSEH;jSMALLaVEW;jS",
    "MALLaTIWN;jSMALLaREH;jSMALLaCO;jSMALLaYIWN;jSMALLaPIWR;jSMALLaKEH;jSMALLaOH;jSMALLaFEH;jSM",
    "ALL LIGATURE ECH YIWN;jSMALLaYIbSTROKE;jFULL STOP;jHYPHEN"]),
  (0x5D0, [
    "HEBREWaALEF;HEBREWaBET;HEBREWaGIMEL;HEBREWaDALET;HEBREWaHE;HEBREWaVAV;HEBREWaZAYIN;HEBREWa",
    "HET;HEBREWaTET;HEBREWaYOD;HEBREWaFINAL KAF;HEBREWaKAF;HEBREWaLAMED;HEBREWaFINAL MEM;HEBREW",
    "aMEM;HEBREWaFINAL NUN;HEBREWaNUN;HEBREWaSAMEKH;HEBREWaAYIN;HEBREWaFINAL PE;HEBREWaPE;HEBRE",
    "WaFINAL TSADI;HEBREWaTSADI;HEBREWaQOF;HEBREWaRESH;HEBREWaSHIN;HEBREWaTAV"]),
  (0x621, [
    "ARABICaHAMZA;ARABICaALEFbMADDAv;ARABICaALEFbHAMZAv;ARABICaWAWbHAMZAv;ARABICaALEFbHAMZAq;AR",
    "ABICaYEHbHAMZAv;ARABICaALEF;ARABICaBEH;ARABICaTEH MARBUTA;ARABICaTEH;ARABICaTHEH;ARABICaJE",
    "EM;ARABICaHAH;ARABICaKHAH;ARABICaDAL;ARABICaTHAL;ARABICaREH;ARABICaZAIN;ARABICaSEEN;ARABIC",
    "aSHEEN;ARABICaSAD;ARABICaDAD;ARABICaTAH;ARABICaZAH;ARABICaAIN;ARABICaGHAIN"]),
  (0x641, [
    "ARABICaFEH;ARABICaQAF;ARABICaKAF;ARABICaLAM;ARABICaMEEM;ARABICaNOON;ARABICaHEH;ARABICaWAW;",
    "ARABICaALEF MAKSURA;ARABICaYEH"]),
  (0x660, [
    "ARABIC-INDIC uZERO;ARABIC-INDIC uONE;ARABIC-INDIC uTWO;ARABIC-INDIC uTHREE;ARABIC-INDIC uF",
    "OUR;ARABIC-INDIC uFIVE;ARABIC-INDIC uSIX;ARABIC-INDIC uSEVEN;ARABIC-INDIC uEIGHT;ARABIC-IN",
    "DIC uNINE"]),
  (0x966, [
    "DEVANAGARI uZERO;DEVANAGARI uONE;DEVANAGARI uTWO;DEVANAGARI uTHREE;DEVANAGARI uFOUR;DEVANA",
    "GARI uFIVE;DEVANAGARI uSIX;DEVANAGARI uSEVEN;DEVANAGARI uEIGHT;DEVANAGARI uNINE"]),
  (0x10D0, [
    "GEORGIANaAN;GEORGIANaBAN;GEORGIANaGAN;GEORGIANaDON;GEORGIANaEN;GEORGIANaVIN;GEORGIANaZEN;G",
    "EORGIANaTAN;GEORGIANaIN;GEORGIANaKAN;GEORGIANaLAS;GEORGIANaMAN;GEORGIANaNAR;GEORGIANaON;GE",
    "ORGIANaPAR;GEORGIANaZHAR;GEORGIANaRAE;GEORGIANaSAN;GEORGIANaTAR;GEORGIANaUN;GEORGIANaPHAR;",
    "GEORGIANaKHAR;GEORGIANaGHAN;GEORGIANaQAR;GEORGIANaSHIN;GEORGIANaCHIN;GEORGIANaCAN;GEORGIAN",
    "aJIL;GEORGIANaCIL;GEORGIANaCHAR;GEORGIANaXAN;GEORGIANaJHAN;GEORGIANaHAE"]),
  (0x1E00, [
    "cCAPITALaAbRINGq;cSMALLaAbRINGq;cCAPITALaBbDOTv;cSMALLaBbDOTv;cCAPITALaBbDOTq;cSMALLaBbDOT",
    "q;cCAPITALaBbLINEq;cSMALLaBbLINEq;cCAPITALaCbCEDILLAgACUTE;cSMALLaCbCEDILLAgACUTE;cCAPITAL",
    "aDbDOTv;cSMALLaDbDOTv;cCAPITALaDbDOTq;cSMALLaDbDOTq;cCAPITALaDbLINEq;cSMALLaDbLINEq;cCAPIT",
    "ALaDbCEDILLA;cSMALLaDbCEDILLA;cCAPITALaDbCIRCUMFLEXq;cSMALLaDbCIRCUMFLEXq;cCAPITALaEbMACRO",
    "NgGRAVE;cSMALLaEbMACRONgGRAVE;cCAPITALaEbMACRONgACUTE;cSMALLaEbMACRONgACUTE;cCAPITALaEbCIR",
    "CUMFLEXq;cSMALLaEbCIRCUMFLEXq;cCAPITALaEbTILDEq;cSMALLaEbTILDEq;cCAPITALaEbCEDILLAgBREVE;c",
    "SMALLaEbCEDILLAgBREVE;cCAPITALaFbDOTv;cSMALLaFbDOTv;cCAPITALaGbMACRON;cSMALLaGbMACRON;cCAP",
    "ITALaHbDOTv;cSMALLaHbDOTv;cCAPITALaHbDOTq;cSMALLaHbDOTq;cCAPITALaHbDIAERESIS;cSMALLaHbDIAE",
    "RESIS;cCAPITALaHbCEDILLA;cSMALLaHbCEDILLA;cCAPITALaHbBREVEq;cSMALLaHbBREVEq;cCAPITALaIbTIL",
    "DEq;cSMALLaIbTILDEq;cCAPITALaIbDIAERESISgACUTE;cSMALLaIbDIAERESISgACUTE;cCAPITALaKbACUTE;c",
    "SMALLaKbACUTE;cCAPITALaKbDOTq;cSMALLaKbDOTq;cCAPITALaKbLINEq;cSMALLaKbLINEq;cCAPITALaLbDOT",
    "q;cSMALLaLbDOTq;cCAPITALaLbDOTqgMACRON;cSMALLaLbDOTqgMACRON;cCAPITALaLbLINEq;cSMALLaLbLINE",
    "q;cCAPITALaLbCIRCUMFLEXq;cSMALLaLbCIRCUMFLEXq;cCAPITALaMbACUTE;cSMALLaMbACUTE;cCAPITALaMbD",
    "OTv;cSMALLaMbDOTv;cCAPITALaMbDOTq;cSMALLaMbDOTq;cCAPITALaNbDOTv;cSMALLaNbDOTv;cCAPITALaNbD",
    "OTq;cSMALLaNbDOTq;cCAPITALaNbLINEq;cSMALLaNbLINEq;cCAPITALaNbCIRCUMFLEXq;cSMALLaNbCIRCUMFL",
    "EXq;cCAPITALaObTILDEgACUTE;cSMALLaObTILDEgACUTE;cCAPITALaObTILDEgDIAERESIS;cSMALLaObTILDEg",
    "DIAERESIS;cCAPITALaObMACRONgGRAVE;cSMALLaObMACRONgGRAVE;cCAPITALaObMACRONgACUTE;cSMALLaObM",
    "ACRONgACUTE;cCAPITALaPbACUTE;cSMALLaPbACUTE;cCAPITALaPbDOTv;cSMALLaPbDOTv;cCAPITALaRbDOTv;",
    "cSMALLaRbDOTv;cCAPITALaRbDOTq;cSMALLaRbDOTq;cCAPITALaRbDOTqgMACRON;cSMALLaRbDOTqgMACRON;cC",
    "APITALaRbLINEq;cSMALLaRbLINEq;cCAPITALaSbDOTv;cSMALLaSbDOTv;cCAPITALaSbDOTq;cSMALLaSbDOTq;",
    "cCAPITALaSbACUTEgDOTv;cSMALLaSbACUTEgDOTv;cCAPITALaSbCARONgDOTv;cSMALLaSbCARONgDOTv;cCAPIT",
    "ALaSbDOTqgDOTv;cSMALLaSbDOTqgDOTv;cCAPITALaTbDOTv;cSMALLaTbDOTv;cCAPITALaTbDOTq;cSMALLaTbD",
    "OTq;cCAPITALaTbLINEq;cSMALLaTbLINEq;cCAPITALaTbCIRCUMFLEXq;cSMALLaTbCIRCUMFLEXq;cCAPITALaU",
    "bDIAERESISq;cSMALLaUbDIAERESISq;cCAPITALaUbTILDEq;cSMALLaUbTILDEq;cCAPITALaUbCIRCUMFLEXq;c",
    "SMALLaUbCIRCUMFLEXq;cCAPITALaUbTILDEgACUTE;cSMALLaUbTILDEgACUTE;cCAPITALaUbMACRONgDIAERESI",
    "S;cSMALLaUbMACRONgDIAERESIS;cCAPITALaVbTILDE;cSMALLaVbTILDE;cCAPITALaVbDOTq;cSMALLaVbDOTq;",
    "cCAPITALaWbGRAVE;cSMALLaWbGRAVE;cCAPITALaWbACUTE;cSMALLaWbACUTE;cCAPITALaWbDIAERESIS;cSMAL",
    "LaWbDIAERESIS;cCAPITALaWbDOTv;cSMALLaWbDOTv;cCAPITALaWbDOTq;cSMALLaWbDOTq;cCAPITALaXbDOTv;",
    "cSMALLaXbDOTv;cCAPITALaXbDIAERESIS;cSMALLaXbDIAERESIS;cCAPITALaYbDOTv;cSMALLaYbDOTv;cCAPIT",
    "ALaZbCIRCUMFLEX;cSMALLaZbCIRCUMFLEX;cCAPITALaZbDOTq;cSMALLaZbDOTq;cCAPITALaZbLINEq;cSMALLa",
    "ZbLINEq;cSMALLaHbLINEq;cSMALLaTbDIAERESIS;cSMALLaWbRINGv;cSMALLaYbRINGv;cSMALLaAbtHALF RIN",
    "G;cSMALLaLONG SbDOTv;cSMALLaLONG SbDIAGONAL STROKE;cSMALLaLONG SbHIGH STROKE;cCAPITALaSHAR",
    "P S;cSMALLaDELTA"]),
  (0x2000, [
    "EN QUAD;EM QUAD;EN SPACE;EM SPACE;THREE-PER-EM SPACE;FOUR-PER-EM SPACE;SIX-PER-EM SPACE;FI",
    "GURE SPACE;PUNCTUATION SPACE;THIN SPACE;HAIR SPACE;ZERO WIDTH SPACE;ZERO WIDTH NON-JOINER;",
    "ZERO WIDTH JOINER;LEFT-TO-tMARK;RIGHT-TO-xMARK;HYPHEN;NON-BREAKING HYPHEN;FIGURE DASH;EN D",
    "ASH;EM DASH;HORIZONTAL BAR;DOUBLE VERTICAL LINE;DOUBLE LOW LINE;xSINGLEy;tSINGLEy;SINGLE L",
    "OW-9y;SINGLE HIGH-REVERSED-9y;xDOUBLEy;tDOUBLEy;DOUBLE LOW-9y;DOUBLE HIGH-REVERSED-9y;DAGG",
    "ER;DOUBLE DAGGER;BULLET;TRIANGULAR BULLET;ONE DOT LEADER;TWO DOT LEADER;HORIZONTAL ELLIPSI",
    "S;HYPHENATION POINT;LINE SEPARATOR;PARAGRAPH SEPARATOR;LEFT-TO-tEMBEDDING;RIGHT-TO-xEMBEDD",
    "ING;POP DIRECTIONAL FORMATTING;LEFT-TO-tOVERRIDE;RIGHT-TO-xOVERRIDE;NARROW NO-BREAK SPACE;",
    "PER MILLEm;PER TEN THOUSANDm;PRIME;DOUBLE PRIME;TRIPLE PRIME;REVERSED PRIME;REVERSED DOUBL",
    "E PRIME;REVERSED TRIPLE PRIME;CARET;SINGLE LEFT-POINTING ANGLEy;SINGLE RIGHT-POINTING ANGL",
    "Ey;REFERENCE MARK;DOUBLE EXCLAMATION MARK;INTERROBANG;OVERLINE;UNDERTIE;CHARACTER TIE;CARE",
    "T INSERTION POINT;ASTERISM;HYPHEN BULLET;FRACTION SLASH;xSQUARE BRACKETbQUILL;tSQUARE BRAC",
    "KETbQUILL;DOUBLE QUESTION MARK;QUESTION EXCLAMATION MARK;EXCLAMATION QUESTION MARK;TIRONIA",
    "Nm ET;REVERSED PILCROWm;nLEFTWARDS BULLET;nRIGHTWARDS BULLET;LOW ASTERISK;REVERSED SEMICOL",
    "ON;CLOSE UP;TWO ASTERISKS ALIGNED VERTICALLY;COMMERCIAL MINUSm;SWUNG DASH;INVERTED UNDERTI",
    "E;FLOWER PUNCTUATION MARK;THREE DOT PUNCTUATION;QUADRUPLE PRIME;FOUR DOT PUNCTUATION;FIV",
    "E DOT PUNCTUATION;TWO DOT PUNCTUATION;FOUR DOT MARK;DOTTED CROSS;TRICOLON;VERTICAL FOUR DO",
    "TS;MEDIUM MATHEMATICAL SPACE;WORD JOINER;FUNCTION APPLICATION;INVISIBLE TIMES;INVISIBLE SE",
    "PARATOR;INVISIBLE PLUS"]),
  (0x2066, [
    "LEFT-TO-tISOLATE;RIGHT-TO-xISOLATE;FIRST STRONG ISOLATE;POP DIRECTIONAL ISOLATE;INHIBIT SY",
    "MMETRIC SWAPPING;ACTIVATE SYMMETRIC SWAPPING;INHIBIT ARABIC FORM SHAPING;ACTIVATE ARABIC F",
    "ORM SHAPING;NATIONAL uSHAPES;NOMINAL uSHAPES;SUPERSCRIPT ZERO;SUPERSCRIPT cSMALLaI"]),
  (0x2074, [
    "SUPERSCRIPT FOUR;SUPERSCRIPT FIVE;SUPERSCRIPT SIX;SUPERSCRIPT SEVEN;SUPERSCRIPT EIGHT;SUPE",
    "RSCRIPT NINE;SUPERSCRIPT PLUSm;SUPERSCRIPT MINUS;SUPERSCRIPT EQUALSm;SUPERSCRIPT xPARENTHE",
    "SIS;SUPERSCRIPT tPARENTHESIS;SUPERSCRIPT cSMALLaN;SUBSCRIPT ZERO;SUBSCRIPT ONE;SUBSCRIPT T",
    "WO;SUBSCRIPT THREE;SUBSCRIPT FOUR;SUBSCRIPT FIVE;SUBSCRIPT SIX;SUBSCRIPT SEVEN;SUBSCRIPT E",
    "IGHT;SUBSCRIPT NINE;SUBSCRIPT PLUSm;SUBSCRIPT MINUS;SUBSCRIPT EQUALSm;SUBSCRIPT xPARENTHES",
    "IS;SUBSCRIPT tPARENTHESIS"]),
  (0x2090, [
    "cSUBSCRIPT SMALLaA;cSUBSCRIPT SMALLaE;cSUBSCRIPT SMALLaO;cSUBSCRIPT SMALLaX;cSUBSCRIPT SMA",
    "LLaSCHWA;cSUBSCRIPT SMALLaH;cSUBSCRIPT SMALLaK;cSUBSCRIPT SMALLaL;cSUBSCRIPT SMALLaM;cSUBS",
    "CRIPT SMALLaN;cSUBSCRIPT SMALLaP;cSUBSCRIPT SMALLaS;cSUBSCRIPT SMALLaT"]),
  (0x20A0, [
    "EURO-CURRENCYm;COLONm;CRUZEIROm;FRENCH FRANCm;LIRAm;MILLm;NAIRAm;PESETAm;RUPEEm;WONm;NEW S",
    "HEQELm;DONGm;EUROm;KIPm;TUGRIKm;DRACHMAm;GERMAN PENNYm;PESOm;GUARANIm;AUSTRALm;HRYVNIAm;CE",
    "DIm;LIVRE TOURNOISm;SPESMILOm;TENGEm;INDIAN RUPEEm;TURKISH LIRAm;NORDIC MARKm;MANATm;RUBLE",
    "m;LARIm;BITCOINm"]),
  (0x2100, [
    "ACCOUNT OF;ADDRESSED TO THE SUBJECT;DOUBLE-STRUCK CAPITAL C;DEGREE CELSIUS;CENTRE LINEl;CA",
    "RE OF;CADA UNA;EULER CONSTANT;SCRUPLE;DEGREE FAHRENHEIT;SCRIPT SMALL G;SCRIPT CAPITAL H;BL",
    "ACK-LETTER CAPITAL H;DOUBLE-STRUCK CAPITAL H;PLANCK CONSTANT;PLANCK CONSTANT OVER TWO PI;S",
    "CRIPT CAPITAL I;BLACK-LETTER CAPITAL I;SCRIPT CAPITAL L;SCRIPT SMALL L;L B BARl;DOUBLE-STR",
    "UCK CAPITAL N;NUMEROm;SOUND RECORDING COPYRIGHT;SCRIPT CAPITAL P;DOUBLE-STRUCK CAPITAL P;D",
    "OUBLE-STRUCK CAPITAL Q;SCRIPT CAPITAL R;BLACK-LETTER CAPITAL R;DOUBLE-STRUCK CAPITAL R;PRE",
    "SCRIPTION TAKE;RESPONSE;SERVICE MARK;TELEPHONEm;TRADE MARKm;VERSICLE;DOUBLE-STRUCK CAPITA",
    "L Z;OUNCEm;OHMm;INVERTED OHMm;BLACK-LETTER CAPITAL Z;TURNED kSMALLaIOTA;KELVINm;ANGSTROMm;",
    "SCRIPT CAPITAL B;BLACK-LETTER CAPITAL C;ESTIMATEDl;SCRIPT SMALL E;SCRIPT CAPITAL E;SCRIP",
    "T CAPITAL F;TURNED CAPITAL F;SCRIPT CAPITAL M;SCRIPT SMALL O;ALEFl;BETl;GIMELl;DALETl;INFO",
    "RMATION SOURCE;ROTATED CAPITAL Q;FACSIMILEm;DOUBLE-STRUCK SMALL PI;DOUBLE-STRUCK SMALL GAM",
    "MA;DOUBLE-STRUCK CAPITAL GAMMA;DOUBLE-STRUCK CAPITAL PI;DOUBLE-STRUCK N-ARY SUMMATION;TURN",
    "ED SANS-SERIF CAPITAL G;TURNED SANS-SERIF CAPITAL L;REVERSED SANS-SERIF CAPITAL L;TURNED S",
    "ANS-SERIF CAPITAL Y;DOUBLE-STRUCK ITALIC CAPITAL D;DOUBLE-STRUCK ITALIC SMALL D;DOUBLE-STR",
    "UCK ITALIC SMALL E;DOUBLE-STRUCK ITALIC SMALL I;DOUBLE-STRUCK ITALIC SMALL J;PROPERTY LINE",
    ";TURNED AMPERSAND;PERm;AKTIESELSKAB;TURNED SMALL F;SYMBOL FOR SAMARITAN SOURCE;VULGAR FRAC",
    "TION ONE SEVENTH;VULGAR FRACTION ONE NINTH;VULGAR FRACTION ONE TENTH;VULGAR FRACTION ONE T",
    "HIRD;VULGAR FRACTION TWO THIRDS;VULGAR FRACTION ONE FIFTH;VULGAR FRACTION TWO FIFTHS;VULGA",
    "R FRACTION THREE FIFTHS;VULGAR FRACTION FOUR FIFTHS;VULGAR FRACTION ONE SIXTH;VULGAR FRACT",
    "ION FIVE SIXTHS;VULGAR FRACTION ONE EIGHTH;VULGAR FRACTION THREE EIGHTHS;VULGAR FRACTION F",
    "IVE EIGHTHS;VULGAR FRACTION SEVEN EIGHTHS;FRACTION NUMERATOR ONE;pONE;pTWO;pTHREE;pFOUR;pF",
    "IVE;pSIX;pSEVEN;pEIGHT;pNINE;pTEN;pELEVEN;pTWELVE;pFIFTY;pONE HUNDRED;pFIVE HUNDRED;pONE T",
    "HOUSAND;SMALL pONE;SMALL pTWO;SMALL pTHREE;SMALL pFOUR;SMALL pFIVE;SMALL pSIX;SMALL pSEVEN",
    ";SMALL pEIGHT;SMALL pNINE;SMALL pTEN;SMALL pELEVEN;SMALL pTWELVE;SMALL pFIFTY;SMALL pONE H",
    "UNDRED;SMALL pFIVE HUNDRED;SMALL pONE THOUSAND;pONE THOUSAND C D;pFIVE THOUSAND;pTEN THOUS",
    "AND;pREVERSED ONE HUNDRED;cSMALLaREVERSED C;pSIX LATE FORM;pFIFTY EARLY FORM;pFIFTY THOUSA",
    "ND;pONE HUNDRED THOUSAND;VULGAR FRACTION ZERO THIRDS;TURNED uTWO;TURNED uTHREE"]),
  (0x2190, [
    "LEFTWARDSo;UPWARDSo;RIGHTWARDSo;DOWNWARDSo;xRIGHTo;UP DOWNo;NORTH WESTo;NORTH EASTo;SOUT",
    "H EASTo;SOUTH WESTo;LEFTWARDSobSTROKE;RIGHTWARDSobSTROKE;LEFTWARDS WAVEo;RIGHTWARDS WAVEo;",
    "LEFTWARDS TWO HEADEDo;UPWARDS TWO HEADEDo;RIGHTWARDS TWO HEADEDo;DOWNWARDS TWO HEADEDo;LEF",
    "TWARDSobTAIL;RIGHTWARDSobTAIL;LEFTWARDSo FROM BAR;UPWARDSo FROM BAR;RIGHTWARDSo FROM BAR;D",
    "OWNWARDSo FROM BAR;UP DOWNobBASE;LEFTWARDSobHOOK;RIGHTWARDSobHOOK;LEFTWARDSobLOOP;RIGHTWAR",
    "DSobLOOP;xtWAVEo;xRIGHTobSTROKE;DOWNWARDS ZIGZAGo;UPWARDSobTIP LEFTWARDS;UPWARDSobTIP RIGH",
    "TWARDS;DOWNWARDSobTIP LEFTWARDS;DOWNWARDSobTIP RIGHTWARDS;RIGHTWARDSobCORNER DOWNWARDS;DOW",
    "NWARDSobCORNER LEFTWARDS;ANTICLOCKWISE TOP SEMICIRCLEo;CLOCKWISE TOP SEMICIRCLEo;NORTH WES",
    "To TO LONG BAR;LEFTWARDSo TO BAR OVER RIGHTWARDSo TO BAR;ANTICLOCKWISE OPEN CIRCLEo;CLOCKW",
    "ISE OPEN CIRCLEo;LEFTWARDS HARPOONbBARB UPWARDS;LEFTWARDS HARPOONbBARB DOWNWARDS;UPWARDS H",
    "ARPOONbBARB RIGHTWARDS;UPWARDS HARPOONbBARB LEFTWARDS;RIGHTWARDS HARPOONbBARB UPWARDS;RIGH",
    "TWARDS HARPOONbBARB DOWNWARDS;DOWNWARDS HARPOONbBARB RIGHTWARDS;DOWNWARDS HARPOONbBARB LEF",
    "TWARDS;RIGHTWARDSo OVER LEFTWARDSo;UPWARDSo LEFTWARDS OF DOWNWARDSo;LEFTWARDSo OVER RIGHTW",
    "ARDSo;LEFTWARDS PAIREDoS;UPWARDS PAIREDoS;RIGHTWARDS PAIREDoS;DOWNWARDS PAIREDoS;LEFTWARD",
    "S HARPOON OVER RIGHTWARDS HARPOON;RIGHTWARDS HARPOON OVER LEFTWARDS HARPOON;LEFTWARDS DOUB",
    "LEobSTROKE;xtDOUBLEobSTROKE;RIGHTWARDS DOUBLEobSTROKE;LEFTWARDS DOUBLEo;UPWARDS DOUBLEo;RI",
    "GHTWARDS DOUBLEo;DOWNWARDS DOUBLEo;xtDOUBLEo;UP DOWN DOUBLEo;NORTH WEST DOUBLEo;NORTH EAS",
    "T DOUBLEo;SOUTH EAST DOUBLEo;SOUTH WEST DOUBLEo;LEFTWARDS TRIPLEo;RIGHTWARDS TRIPLEo;LEFTW",
    "ARDS SQUIGGLEo;RIGHTWARDS SQUIGGLEo;UPWARDSobDOUBLE STROKE;DOWNWARDSobDOUBLE STROKE;LEFTWA",
    "RDS DASHEDo;UPWARDS DASHEDo;RIGHTWARDS DASHEDo;DOWNWARDS DASHEDo;LEFTWARDSo TO BAR;RIGHTWA",
    "RDSo TO BAR;LEFTWARDS iARROW;UPWARDS iARROW;RIGHTWARDS iARROW;DOWNWARDS iARROW;UPWARDS iAR",
    "ROW FROM BAR;UPWARDS iARROW ON PEDESTAL;UPWARDS iARROW ON PEDESTALbHORIZONTAL BAR;UPWARD",
    "S iARROW ON PEDESTALbVERTICAL BAR;UPWARDS iDOUBLEo;UPWARDS iDOUBLEo ON PEDESTAL;RIGHTWARD",
    "S iARROW FROM WALL;NORTH WESTo TO CORNER;SOUTH EASTo TO CORNER;UP DOWN iARROW;RIGHTobSMAL",
    "L CIRCLE;DOWNWARDSo LEFTWARDS OF UPWARDSo;THREE RIGHTWARDSoS;LEFTWARDSobVERTICAL STROKE;RI",
    "GHTWARDSobVERTICAL STROKE;xRIGHTobVERTICAL STROKE;LEFTWARDSobDOUBLE VERTICAL STROKE;RIGHTW",
    "ARDSobDOUBLE VERTICAL STROKE;xRIGHTobDOUBLE VERTICAL STROKE;LEFTWARDS OPEN-HEADEDo;RIGHTWA",
    "RDS OPEN-HEADEDo;xtOPEN-HEADEDo;FOR ALL;COMPLEMENT;PARTIAL DIFFERENTIAL;THERE EXISTS;THER",
    "E DOES NOT EXIST;EMPTY SET;INCREMENT;NABLA;ELEMENT OF;NOT AN ELEMENT OF;SMALL ELEMENT OF;C",
    "ONTAINS AS MEMBER;DOES NOT CONTAIN AS MEMBER;SMALL CONTAINS AS MEMBER;END OF PROOF;N-ARY P",
    "RODUCT;N-ARY COPRODUCT;N-ARY SUMMATION;MINUSm;MINUS-OR-PLUSm;DOT PLUS;DIVISION SLASH;SET M",
    "INUS;ASTERISK OPERATOR;RING OPERATOR;BULLET OPERATOR;SQUARE ROOT;CUBE ROOT;FOURTH ROOT;PRO",
    "PORTIONAL TO;INFINITY;tANGLE;ANGLE;MEASURED ANGLE;SPHERICAL ANGLE;DIVIDES;DOES NOT DIVIDE;",
    "PARALLEL TO;NOT PARALLEL TO;LOGICAL AND;LOGICAL OR;INTERSECTION;UNION;INTEGRAL;DOUBLE INTE",
    "GRAL;TRIPLE INTEGRAL;CONTOUR INTEGRAL;SURFACE INTEGRAL;VOLUME INTEGRAL;CLOCKWISE INTEGRAL;",
    "CLOCKWISE CONTOUR INTEGRAL;ANTICLOCKWISE CONTOUR INTEGRAL;THEREFORE;BECAUSE;RATIO;PROPORTI",
    "ON;DOT MINUS;EXCESS;GEOMETRIC PROPORTION;HOMOTHETIC;TILDE OPERATOR;REVERSED TILDE;INVERTE",
    "D LAZY S;SINE WAVE;WREATH PRODUCT;NOT TILDE;MINUS TILDE;ASYMPTOTICALLYw;NOT ASYMPTOTICALLY",
    "w;APPROXIMATELYw;APPROXIMATELY BUT NOT ACTUALLYw;NEITHER APPROXIMATELY NOR ACTUALLYw;ALMOS",
    "Tw;NOT ALMOSTw;ALMOST EQUAL ORw;TRIPLE TILDE;ALLw;EQUIVALENT TO;GEOMETRICALLY EQUIVALENT T",
    "O;DIFFERENCE BETWEEN;APPROACHES THE LIMIT;GEOMETRICALLYw;APPROXIMATELYw OR THE IMAGE OF;IM",
    "AGE OF OR APPROXIMATELYw;COLON EQUALS;EQUALS COLON;RING INw;RINGw;CORRESPONDS TO;ESTIMATES",
    ";EQUIANGULAR TO;STAR EQUALS;DELTAw;EQUAL TO BY DEFINITION;MEASURED BY;QUESTIONEDw;NOTw;IDE",
    "NTICAL TO;NOT IDENTICAL TO;STRICTLY EQUIVALENT TO;LESS-THAN ORw;GREATER-THAN ORw;LESS-THA",
    "N OVERw;GREATER-THAN OVERw;LESS-THAN BUT NOTw;GREATER-THAN BUT NOTw;MUCH LESS-THAN;MUCH GR",
    "EATER-THAN;BETWEEN;NOT EQUIVALENT TO;NOT LESS-THAN;NOT GREATER-THAN;NEITHER LESS-THAN NORw",
    ";NEITHER GREATER-THAN NORw;LESS-THAN OR EQUIVALENT TO;GREATER-THAN OR EQUIVALENT TO;NEITHE",
    "R LESS-THAN NOR EQUIVALENT TO;NEITHER GREATER-THAN NOR EQUIVALENT TO;LESS-THAN OR GREATER-",
    "THAN;GREATER-THAN OR LESS-THAN;NEITHER LESS-THAN NOR GREATER-THAN;NEITHER GREATER-THAN NO",
    "R LESS-THAN;PRECEDES;SUCCEEDS;PRECEDES ORw;SUCCEEDS ORw;PRECEDES OR EQUIVALENT TO;SUCCEED",
    "S OR EQUIVALENT TO;DOES NOT PRECEDE;DOES NOT SUCCEED;SUBSET OF;SUPERSET OF;NOT A SUBSET OF",
    ";NOT A SUPERSET OF;SUBSET OF ORw;SUPERSET OF ORw;NEITHER A SUBSET OF NORw;NEITHER A SUPERS",
    "ET OF NORw;SUBSET OFbNOTw;SUPERSET OFbNOTw;MULTISET;MULTISET MULTIPLICATION;MULTISET UNION",
    ";SQUARE IMAGE OF;SQUARE ORIGINAL OF;SQUARE IMAGE OF ORw;SQUARE ORIGINAL OF ORw;SQUARE CAP;",
    "SQUARE CUP;CIRCLED PLUS;CIRCLED MINUS;CIRCLED TIMES;CIRCLED DIVISION SLASH;CIRCLED DOT OPE",
    "RATOR;CIRCLED RING OPERATOR;CIRCLED ASTERISK OPERATOR;CIRCLED EQUALS;CIRCLED DASH;SQUARE",
    "D PLUS;SQUARED MINUS;SQUARED TIMES;SQUARED DOT OPERATOR;tTACK;xTACK;DOWN TACK;UP TACK;ASSE",
    "RTION;MODELS;TRUE;FORCES;TRIPLE VERTICAL BAR tTURNSTILE;DOUBLE VERTICAL BAR DOUBLE tTURNST",
    "ILE;DOES NOT PROVE;NOT TRUE;DOES NOT FORCE;NEGATED DOUBLE VERTICAL BAR DOUBLE tTURNSTILE;P",
    "RECEDES UNDER RELATION;SUCCEEDS UNDER RELATION;NORMAL SUBGROUP OF;CONTAINS AS NORMAL SUBGR",
    "OUP;NORMAL SUBGROUP OF ORw;CONTAINS AS NORMAL SUBGROUP ORw;ORIGINAL OF;IMAGE OF;MULTIMAP;H",
    "ERMITIAN CONJUGATE MATRIX;INTERCALATE;XOR;NAND;NOR;tANGLEbARC;tTRIANGLE;N-ARY LOGICAL AND;",
    "N-ARY LOGICAL OR;N-ARY INTERSECTION;N-ARY UNION;DIAMOND OPERATOR;DOT OPERATOR;STAR OPERATO",
    "R;DIVISION TIMES;BOWTIE;xNORMAL FACTOR SEMIDIRECT PRODUCT;tNORMAL FACTOR SEMIDIRECT PRODUC",
    "T;xSEMIDIRECT PRODUCT;tSEMIDIRECT PRODUCT;REVERSED TILDE EQUALS;CURLY LOGICAL OR;CURLY LOG",
    "ICAL AND;DOUBLE SUBSET;DOUBLE SUPERSET;DOUBLE INTERSECTION;DOUBLE UNION;PITCHFORK;EQUALgPA",
    "RALLEL TO;LESS-THANbDOT;GREATER-THANbDOT;VERY MUCH LESS-THAN;VERY MUCH GREATER-THAN;LESS-T",
    "HANw OR GREATER-THAN;GREATER-THANw OR LESS-THAN;EQUAL TO OR LESS-THAN;EQUAL TO OR GREATER-",
    "THAN;EQUAL TO OR PRECEDES;EQUAL TO OR SUCCEEDS;DOES NOT PRECEDE OR EQUAL;DOES NOT SUCCEE",
    "D OR EQUAL;NOT SQUARE IMAGE OF ORw;NOT SQUARE ORIGINAL OF ORw;SQUARE IMAGE OF OR NOTw;SQUA",
    "RE ORIGINAL OF OR NOTw;LESS-THAN BUT NOT EQUIVALENT TO;GREATER-THAN BUT NOT EQUIVALENT TO;",
    "PRECEDES BUT NOT EQUIVALENT TO;SUCCEEDS BUT NOT EQUIVALENT TO;NOT NORMAL SUBGROUP OF;DOE",
    "S NOT CONTAIN AS NORMAL SUBGROUP;NOT NORMAL SUBGROUP OF ORw;DOES NOT CONTAIN AS NORMAL SUB",
    "GROUP OR EQUAL;VERTICAL ELLIPSIS;MIDLINE HORIZONTAL ELLIPSIS;UP tDIAGONAL ELLIPSIS;DOWN tD",
    "IAGONAL ELLIPSIS;ELEMENT OFbLONG HORIZONTAL STROKE;ELEMENT OFbVERTICAL BAR AT END OF HORIZ",
    "ONTAL STROKE;SMALL ELEMENT OFbVERTICAL BAR AT END OF HORIZONTAL STROKE;ELEMENT OFbDOTv;ELE",
    "MENT OFbOVERBAR;SMALL ELEMENT OFbOVERBAR;ELEMENT OFbUNDERBAR;ELEMENT OFbTWO HORIZONTAL STR",
    "OKES;CONTAINSbLONG HORIZONTAL STROKE;CONTAINSbVERTICAL BAR AT END OF HORIZONTAL STROKE;SMA",
    "LL CONTAINSbVERTICAL BAR AT END OF HORIZONTAL STROKE;CONTAINSbOVERBAR;SMALL CONTAINSbOVERB",
    "AR;Z NOTATION BAG MEMBERSHIP;DIAMETERm;ELECTRICo;HOUSE;UPoHEAD;DOWNoHEAD;PROJECTIVE;PERSPE",
    "CTIVE;WAVY LINE;xCEILING;tCEILING;xFLOOR;tFLOOR;BOTTOM tCROP;BOTTOM xCROP;TOP tCROP;TOP xC",
    "ROP;REVERSED NOTm;SQUARE LOZENGE;ARC;SEGMENT;SECTOR;TELEPHONE RECORDER;POSITION INDICATOR;",
    "VIEWDATA SQUARE;PLACE OF INTERESTm;TURNED NOTm;WATCH;HOURGLASS;TOP xCORNER;TOP tCORNER;BOT",
    "TOM xCORNER;BOTTOM tCORNER;TOP HALF INTEGRAL;BOTTOM HALF INTEGRAL;FROWN;SMILE;UPoHEAD BETW",
    "EEN TWO HORIZONTAL BARS;OPTION KEY;ERASE TO THE RIGHT;X IN A RECTANGLE BOX;KEYBOARD;LEFT-P",
    "OINTING ANGLE BRACKET;RIGHT-POINTING ANGLE BRACKET;ERASE TO THE LEFT;BENZENE RING;CYLINDRI",
    "CITY;ALL AROUND-PROFILE;SYMMETRY"]),
  (0x2460, [
    "CIRCLED uONE;CIRCLED uTWO;CIRCLED uTHREE;CIRCLED uFOUR;CIRCLED uFIVE;CIRCLED uSIX;CIRCLE",
    "D uSEVEN;CIRCLED uEIGHT;CIRCLED uNINE;CIRCLED NUMBER TEN;CIRCLED NUMBER ELEVEN;CIRCLED NUM",
    "BER TWELVE;CIRCLED NUMBER THIRTEEN;CIRCLED NUMBER FOURTEEN;CIRCLED NUMBER FIFTEEN;CIRCLE",
    "D NUMBER SIXTEEN;CIRCLED NUMBER SEVENTEEN;CIRCLED NUMBER EIGHTEEN;CIRCLED NUMBER NINETEEN;",
    "CIRCLED NUMBER TWENTY;PARENTHESIZED uONE;PARENTHESIZED uTWO;PARENTHESIZED uTHREE;PARENTHES",
    "IZED uFOUR;PARENTHESIZED uFIVE;PARENTHESIZED uSIX;PARENTHESIZED uSEVEN;PARENTHESIZED uEIGH",
    "T;PARENTHESIZED uNINE;PARENTHESIZED NUMBER TEN;PARENTHESIZED NUMBER ELEVEN;PARENTHESIZED N",
    "UMBER TWELVE;PARENTHESIZED NUMBER THIRTEEN;PARENTHESIZED NUMBER FOURTEEN;PARENTHESIZED NUM",
    "BER FIFTEEN;PARENTHESIZED NUMBER SIXTEEN;PARENTHESIZED NUMBER SEVENTEEN;PARENTHESIZED NUMB",
    "ER EIGHTEEN;PARENTHESIZED NUMBER NINETEEN;PARENTHESIZED NUMBER TWENTY;uONE FULL STOP;uTW",
    "O FULL STOP;uTHREE FULL STOP;uFOUR FULL STOP;uFIVE FULL STOP;uSIX FULL STOP;uSEVEN FULL ST",
    "OP;uEIGHT FULL STOP;uNINE FULL STOP;NUMBER TEN FULL STOP;NUMBER ELEVEN FULL STOP;NUMBER TW",
    "ELVE FULL STOP;NUMBER THIRTEEN FULL STOP;NUMBER FOURTEEN FULL STOP;NUMBER FIFTEEN FULL STO",
    "P;NUMBER SIXTEEN FULL STOP;NUMBER SEVENTEEN FULL STOP;NUMBER EIGHTEEN FULL STOP;NUMBER NIN",
    "ETEEN FULL STOP;NUMBER TWENTY FULL STOP"]),
  (0x2500, [
    "eLIGHT HORIZONTAL;eHEAVY HORIZONTAL;eLIGHT VERTICAL;eHEAVY VERTICAL;eLIGHT TRIPLE DASH HOR",
    "IZONTAL;eHEAVY TRIPLE DASH HORIZONTAL;eLIGHT TRIPLE DASH VERTICAL;eHEAVY TRIPLE DASH VERTI",
    "CAL;eLIGHT QUADRUPLE DASH HORIZONTAL;eHEAVY QUADRUPLE DASH HORIZONTAL;eLIGHT QUADRUPLE DAS",
    "H VERTICAL;eHEAVY QUADRUPLE DASH VERTICAL;eLIGHT DOWNgRIGHT;eDOWN LIGHTgtHEAVY;eDOWN HEAVY",
    "gtLIGHT;eHEAVY DOWNgRIGHT;eLIGHT DOWNgLEFT;eDOWN LIGHTgxHEAVY;eDOWN HEAVYgxLIGHT;eHEAVY DO",
    "WNgLEFT;eLIGHT UPgRIGHT;eUP LIGHTgtHEAVY;eUP HEAVYgtLIGHT;eHEAVY UPgRIGHT;eLIGHT UPgLEFT;e",
    "UP LIGHTgxHEAVY;eUP HEAVYgxLIGHT;eHEAVY UPgLEFT;eLIGHT VERTICALgRIGHT;eVERTICAL LIGHTgtHEA",
    "VY;eUP HEAVYgtDOWN LIGHT;eDOWN HEAVYgtUP LIGHT;eVERTICAL HEAVYgtLIGHT;eDOWN LIGHTgtUP HEAV",
    "Y;eUP LIGHTgtDOWN HEAVY;eHEAVY VERTICALgRIGHT;eLIGHT VERTICALgLEFT;eVERTICAL LIGHTgxHEAVY;",
    "eUP HEAVYgxDOWN LIGHT;eDOWN HEAVYgxUP LIGHT;eVERTICAL HEAVYgxLIGHT;eDOWN LIGHTgxUP HEAVY;e",
    "UP LIGHTgxDOWN HEAVY;eHEAVY VERTICALgLEFT;eLIGHT DOWNgHORIZONTAL;exHEAVYgtDOWN LIGHT;etHEA",
    "VYgxDOWN LIGHT;eDOWN LIGHTgHORIZONTAL HEAVY;eDOWN HEAVYgHORIZONTAL LIGHT;etLIGHTgxDOWN HEA",
    "VY;exLIGHTgtDOWN HEAVY;eHEAVY DOWNgHORIZONTAL;eLIGHT UPgHORIZONTAL;exHEAVYgtUP LIGHT;etHEA",
    "VYgxUP LIGHT;eUP LIGHTgHORIZONTAL HEAVY;eUP HEAVYgHORIZONTAL LIGHT;etLIGHTgxUP HEAVY;exLIG",
    "HTgtUP HEAVY;eHEAVY UPgHORIZONTAL;eLIGHT VERTICALgHORIZONTAL;exHEAVYgtVERTICAL LIGHT;etHEA",
    "VYgxVERTICAL LIGHT;eVERTICAL LIGHTgHORIZONTAL HEAVY;eUP HEAVYgDOWN HORIZONTAL LIGHT;eDOW",
    "N HEAVYgUP HORIZONTAL LIGHT;eVERTICAL HEAVYgHORIZONTAL LIGHT;exUP HEAVYgtDOWN LIGHT;etUP H",
    "EAVYgxDOWN LIGHT;exDOWN HEAVYgtUP LIGHT;etDOWN HEAVYgxUP LIGHT;eDOWN LIGHTgUP HORIZONTAL H",
    "EAVY;eUP LIGHTgDOWN HORIZONTAL HEAVY;etLIGHTgxVERTICAL HEAVY;exLIGHTgtVERTICAL HEAVY;eHEAV",
    "Y VERTICALgHORIZONTAL;eLIGHT DOUBLE DASH HORIZONTAL;eHEAVY DOUBLE DASH HORIZONTAL;eLIGHT D",
    "OUBLE DASH VERTICAL;eHEAVY DOUBLE DASH VERTICAL;eDOUBLE HORIZONTAL;eDOUBLE VERTICAL;eDOW",
    "N SINGLEgtDOUBLE;eDOWN DOUBLEgtSINGLE;eDOUBLE DOWNgRIGHT;eDOWN SINGLEgxDOUBLE;eDOWN DOUBLE",
    "gxSINGLE;eDOUBLE DOWNgLEFT;eUP SINGLEgtDOUBLE;eUP DOUBLEgtSINGLE;eDOUBLE UPgRIGHT;eUP SING",
    "LEgxDOUBLE;eUP DOUBLEgxSINGLE;eDOUBLE UPgLEFT;eVERTICAL SINGLEgtDOUBLE;eVERTICAL DOUBLEgtS",
    "INGLE;eDOUBLE VERTICALgRIGHT;eVERTICAL SINGLEgxDOUBLE;eVERTICAL DOUBLEgxSINGLE;eDOUBLE VER",
    "TICALgLEFT;eDOWN SINGLEgHORIZONTAL DOUBLE;eDOWN DOUBLEgHORIZONTAL SINGLE;eDOUBLE DOWNgHORI",
    "ZONTAL;eUP SINGLEgHORIZONTAL DOUBLE;eUP DOUBLEgHORIZONTAL SINGLE;eDOUBLE UPgHORIZONTAL;eVE",
    "RTICAL SINGLEgHORIZONTAL DOUBLE;eVERTICAL DOUBLEgHORIZONTAL SINGLE;eDOUBLE VERTICALgHORIZO",
    "NTAL;eLIGHT ARC DOWNgRIGHT;eLIGHT ARC DOWNgLEFT;eLIGHT ARC UPgLEFT;eLIGHT ARC UPgRIGHT;eLI",
    "GHT DIAGONAL UPPER tTO LOWER LEFT;eLIGHT DIAGONAL UPPER xTO LOWER RIGHT;eLIGHT DIAGONAL CR",
    "OSS;eLIGHT LEFT;eLIGHT UP;eLIGHT RIGHT;eLIGHT DOWN;eHEAVY LEFT;eHEAVY UP;eHEAVY RIGHT;eHEA",
    "VY DOWN;eLIGHT LEFTgHEAVY RIGHT;eLIGHT UPgHEAVY DOWN;eHEAVY LEFTgLIGHT RIGHT;eHEAVY UPgLIG",
    "HT DOWN;UPPER HALF BLOCK;LOWER ONE EIGHTH BLOCK;LOWER ONE QUARTER BLOCK;LOWER THREE EIGHTH",
    "S BLOCK;LOWER HALF BLOCK;LOWER FIVE EIGHTHS BLOCK;LOWER THREE QUARTERS BLOCK;LOWER SEVEN E",
    "IGHTHS BLOCK;FULL BLOCK;xSEVEN EIGHTHS BLOCK;xTHREE QUARTERS BLOCK;xFIVE EIGHTHS BLOCK;xHA",
    "LF BLOCK;xTHREE EIGHTHS BLOCK;xONE QUARTER BLOCK;xONE EIGHTH BLOCK;tHALF BLOCK;LIGHT SHADE",
    ";MEDIUM SHADE;DARK SHADE;UPPER ONE EIGHTH BLOCK;tONE EIGHTH BLOCK;QUADRANT LOWER LEFT;QUAD",
    "RANT LOWER RIGHT;QUADRANT UPPER LEFT;QUADRANT UPPER LEFTgLOWER LEFTgLOWER RIGHT;QUADRANT U",
    "PPER LEFTgLOWER RIGHT;QUADRANT UPPER LEFTgUPPER RIGHTgLOWER LEFT;QUADRANT UPPER LEFTgUPPE",
    "R RIGHTgLOWER RIGHT;QUADRANT UPPER RIGHT;QUADRANT UPPER RIGHTgLOWER LEFT;QUADRANT UPPER RI",
    "GHTgLOWER LEFTgLOWER RIGHT;nSQUARE;iSQUARE;iSQUAREbROUNDED CORNERS;iSQUARE CONTAINING nSMA",
    "LL SQUARE;SQUAREbHORIZONTAL FILL;SQUAREbVERTICAL FILL;SQUAREbORTHOGONAL CROSSHATCH FILL;SQ",
    "UAREbUPPER xTO LOWER tFILL;SQUAREbUPPER tTO LOWER xFILL;SQUAREbDIAGONAL CROSSHATCH FILL;nS",
    "MALL SQUARE;iSMALL SQUARE;nRECTANGLE;iRECTANGLE;nVERTICAL RECTANGLE;iVERTICAL RECTANGLE;nP",
    "ARALLELOGRAM;iPARALLELOGRAM;nUP-POINTING TRIANGLE;iUP-POINTING TRIANGLE;nUP-POINTING SMAL",
    "L TRIANGLE;iUP-POINTING SMALL TRIANGLE;nRIGHT-POINTING TRIANGLE;iRIGHT-POINTING TRIANGLE;n",
    "RIGHT-POINTING SMALL TRIANGLE;iRIGHT-POINTING SMALL TRIANGLE;nRIGHT-POINTING POINTER;iRIGH",
    "T-POINTING POINTER;nDOWN-POINTING TRIANGLE;iDOWN-POINTING TRIANGLE;nDOWN-POINTING SMALL TR",
    "IANGLE;iDOWN-POINTING SMALL TRIANGLE;nLEFT-POINTING TRIANGLE;iLEFT-POINTING TRIANGLE;nLEFT",
    "-POINTING SMALL TRIANGLE;iLEFT-POINTING SMALL TRIANGLE;nLEFT-POINTING POINTER;iLEFT-POINTI",
    "NG POINTER;nDIAMOND;iDIAMOND;iDIAMOND CONTAINING nSMALL DIAMOND;FISHEYE;LOZENGE;iCIRCLE;DO",
    "TTED CIRCLE;CIRCLEbVERTICAL FILL;BULLSEYE;nCIRCLE;CIRCLEbxHALF BLACK;CIRCLEbtHALF BLACK;CI",
    "RCLEbLOWER HALF BLACK;CIRCLEbUPPER HALF BLACK;CIRCLEbUPPER tQUADRANT BLACK;CIRCLEbALL BU",
    "T UPPER xQUADRANT BLACK;xHALF nCIRCLE;tHALF nCIRCLE;INVERSE BULLET;INVERSE iCIRCLE;UPPER H",
    "ALF INVERSE iCIRCLE;LOWER HALF INVERSE iCIRCLE;UPPER xQUADRANT CIRCULAR ARC;UPPER tQUADRAN",
    "T CIRCULAR ARC;LOWER tQUADRANT CIRCULAR ARC;LOWER xQUADRANT CIRCULAR ARC;UPPER HALF CIRCLE",
    ";LOWER HALF CIRCLE;nLOWER tTRIANGLE;nLOWER xTRIANGLE;nUPPER xTRIANGLE;nUPPER tTRIANGLE;iBU",
    "LLET;SQUAREbxHALF BLACK;SQUAREbtHALF BLACK;SQUAREbUPPER xDIAGONAL HALF BLACK;SQUAREbLOWE",
    "R tDIAGONAL HALF BLACK;iSQUAREbVERTICAL BISECTING LINE;iUP-POINTING TRIANGLEbDOT;UP-POINTI",
    "NG TRIANGLEbxHALF BLACK;UP-POINTING TRIANGLEbtHALF BLACK;LARGE CIRCLE;iSQUAREbUPPER xQUADR",
    "ANT;iSQUAREbLOWER xQUADRANT;iSQUAREbLOWER tQUADRANT;iSQUAREbUPPER tQUADRANT;iCIRCLEbUPPE",
    "R xQUADRANT;iCIRCLEbLOWER xQUADRANT;iCIRCLEbLOWER tQUADRANT;iCIRCLEbUPPER tQUADRANT;UPPE",
    "R xTRIANGLE;UPPER tTRIANGLE;LOWER xTRIANGLE;iMEDIUM SQUARE;nMEDIUM SQUARE;iMEDIUM SMALL SQ",
    "UARE;nMEDIUM SMALL SQUARE;LOWER tTRIANGLE;nSUNbRAYS;CLOUD;UMBRELLA;SNOWMAN;COMET;nSTAR;iST",
    "AR;LIGHTNING;THUNDERSTORM;SUN;ASCENDING NODE;DESCENDING NODE;CONJUNCTION;OPPOSITION;nTELEP",
    "HONE;iTELEPHONE;BALLOT BOX;BALLOT BOXbCHECK;BALLOT BOXbX;SALTIRE;UMBRELLAbRAIN DROPS;HOT B",
    "EVERAGE;iSHOGI PIECE;nSHOGI PIECE;SHAMROCK;REVERSED ROTATED FLORAL HEART BULLET;nxPOINTIN",
    "G INDEX;ntPOINTING INDEX;ixPOINTING INDEX;iUP POINTING INDEX;itPOINTING INDEX;iDOWN POINTI",
    "NG INDEX;SKULLgCROSSBONES;CAUTIONm;RADIOACTIVEm;BIOHAZARDm;CADUCEUS;ANKH;ORTHODOX CROSS;CH",
    "I RHO;CROSS OF LORRAINE;CROSS OF JERUSALEM;STARgCRESCENT;FARSIl;ADI SHAKTI;HAMMERgSICKLE;P",
    "EACEl;YIN YANG;TRIGRAM FOR HEAVEN;TRIGRAM FOR LAKE;TRIGRAM FOR FIRE;TRIGRAM FOR THUNDER;TR",
    "IGRAM FOR WIND;TRIGRAM FOR WATER;TRIGRAM FOR MOUNTAIN;TRIGRAM FOR EARTH;WHEEL OF DHARMA;iF",
    "ROWNINGz;iSMILINGz;nSMILINGz;iSUNbRAYS;FIRST QUARTER MOON;LAST QUARTER MOON;MERCURY;FEMALE",
    "m;EARTH;MALEm;JUPITER;SATURN;URANUS;NEPTUNE;PLUTO;ARIES;TAURUS;GEMINI;CANCER;LEO;VIRGO;LIB",
    "RA;SCORPIUS;SAGITTARIUS;CAPRICORN;AQUARIUS;PISCES;iCHESS KING;iCHESS QUEEN;iCHESS ROOK;iCH",
    "ESS BISHOP;iCHESS KNIGHT;iCHESS PAWN;nCHESS KING;nCHESS QUEEN;nCHESS ROOK;nCHESS BISHOP;nC",
    "HESS KNIGHT;nCHESS PAWN;nSPADE SUIT;iHEART SUIT;iDIAMOND SUIT;nCLUB SUIT;iSPADE SUIT;nHEAR",
    "T SUIT;nDIAMOND SUIT;iCLUB SUIT;HOT SPRINGS;QUARTER NOTE;EIGHTH NOTE;BEAMED EIGHTH NOTES;B",
    "EAMED SIXTEENTH NOTES;MUSIC FLATm;MUSIC NATURALm;MUSIC SHARPm;WEST SYRIAC CROSS;EAST SYRIA",
    "C CROSS;UNIVERSAL RECYCLINGl;RECYCLINGl FOR TYPE-1 PLASTICS;RECYCLINGl FOR TYPE-2 PLASTICS",
    ";RECYCLINGl FOR TYPE-3 PLASTICS;RECYCLINGl FOR TYPE-4 PLASTICS;RECYCLINGl FOR TYPE-5 PLAST",
    "ICS;RECYCLINGl FOR TYPE-6 PLASTICS;RECYCLINGl FOR TYPE-7 PLASTICS;RECYCLINGl FOR GENERIC M",
    "ATERIALS;nUNIVERSAL RECYCLINGl;RECYCLED PAPERl;PARTIALLY-RECYCLED PAPERl;PERMANENT PAPERm;",
    "WHEELCHAIRl;DIEz-1;DIEz-2;DIEz-3;DIEz-4;DIEz-5;DIEz-6;iCIRCLEbDOT RIGHT;iCIRCLEbTWO DOTS;n",
    "CIRCLEbiDOT RIGHT;nCIRCLEbTWO iDOTS;MONOGRAM FOR YANG;MONOGRAM FOR YIN;DIGRAM FOR GREATE",
    "R YANG;DIGRAM FOR LESSER YIN;DIGRAM FOR LESSER YANG;DIGRAM FOR GREATER YIN;iFLAG;nFLAG;HAM",
    "MERgPICK;ANCHOR;CROSSED SWORDS;STAFF OF AESCULAPIUS;SCALES;ALEMBIC;FLOWER;GEAR;STAFF OF HE",
    "RMES;ATOMl;FLEUR-DE-LIS;OUTLINED iSTAR;THREE LINES CONVERGING RIGHT;THREE LINES CONVERGIN",
    "G LEFT;WARNINGm;HIGH VOLTAGEm;DOUBLED FEMALEm;DOUBLED MALEm;INTERLOCKED FEMALEgMALEm;MALEg",
    "FEMALEm;MALEbSTROKEm;MALEbSTROKEgMALEgFEMALEm;VERTICAL MALEbSTROKEm;HORIZONTAL MALEbSTROKE",
    "m;MEDIUM iCIRCLE;MEDIUM nCIRCLE;MEDIUM SMALL iCIRCLE;MARRIAGEl;DIVORCEl;UNMARRIED PARTNERS",
    "HIPl;COFFIN;FUNERAL URN;NEUTER;CERES;PALLAS;JUNO;VESTA;CHIRON;nMOON LILITH;SEXTILE;SEMISEX",
    "TILE;QUINCUNX;SESQUIQUADRATE;SOCCER BALL;BASEBALL;SQUARED KEY;iDRAUGHTS MAN;iDRAUGHTS KING",
    ";nDRAUGHTS MAN;nDRAUGHTS KING;SNOWMAN WITHOUT SNOW;SUN BEHIND CLOUD;RAIN;nSNOWMAN;THUNDE",
    "R CLOUDgRAIN;TURNED iSHOGI PIECE;TURNED nSHOGI PIECE;iDIAMOND IN SQUARE;CROSSING LANES;DIS",
    "ABLED CAR;OPHIUCHUS;PICK;CAR SLIDING;HELMETbiCROSS;CIRCLED CROSSING LANES;CHAINS;NO ENTRY;",
    "ALTERNATE ONE-WAY xWAY TRAFFIC;nTWO-WAY xWAY TRAFFIC;iTWO-WAY xWAY TRAFFIC;nxLANE MERGE;ix",
    "LANE MERGE;DRIVE SLOWm;HEAVY iDOWN-POINTING TRIANGLE;xCLOSED ENTRY;SQUARED SALTIRE;FALLIN",
    "G DIAGONAL IN iCIRCLE IN nSQUARE;nTRUCK;RESTRICTED xENTRY-1;RESTRICTED xENTRY-2;ASTRONOMIC",
    "ALl FOR URANUS;HEAVY CIRCLEbSTROKEgTWO DOTSv;PENTAGRAM;RIGHT-HANDED INTERLACED PENTAGRAM;L",
    "EFT-HANDED INTERLACED PENTAGRAM;INVERTED PENTAGRAM;nCROSS ON SHIELD;SHINTO SHRINE;CHURCH;C",
    "ASTLE;HISTORIC SITE;GEAR WITHOUT HUB;GEARbHANDLES;MAPl FOR LIGHTHOUSE;MOUNTAIN;UMBRELLA O",
    "N GROUND;FOUNTAIN;FLAG IN HOLE;FERRY;SAILBOAT;SQUARE FOUR CORNERS;SKIER;ICE SKATE;PERSONbB",
    "ALL;TENT;JAPANESE BANKl;HEADSTONE GRAVEYARDl;FUEL PUMP;CUP ON nSQUARE;iFLAGbHORIZONTAL MID",
    "DLE nSTRIPE;nSAFETY SCISSORS;UPPER BLADE SCISSORS;nSCISSORS;LOWER BLADE SCISSORS;iSCISSORS",
    ";iHEAVY CHECK MARK;TELEPHONE LOCATIONm;TAPE DRIVE;AIRPLANE;ENVELOPE;RAISED FIST;RAISED HAN",
    "D;VICTORY HAND;WRITING HAND;LOWER tPENCIL;PENCIL;UPPER tPENCIL;iNIB;nNIB;CHECK MARK;HEAV",
    "Y CHECK MARK;MULTIPLICATION X;HEAVY MULTIPLICATION X;BALLOT X;HEAVY BALLOT X;OUTLINED kCRO",
    "SS;HEAVY kCROSS;OPEN CENTRE CROSS;HEAVY OPEN CENTRE CROSS;cCROSS;SHADOWED icCROSS;OUTLINE",
    "D cCROSS;MALTESE CROSS;STAR OF DAVID;FOUR TEARDROP-SPOKED ASTERISK;FOUR BALLOON-SPOKED AST",
    "ERISK;HEAVY FOUR BALLOON-SPOKED ASTERISK;FOUR CLUB-SPOKED ASTERISK;nFOUR POINTED STAR;iFOU",
    "R POINTED STAR;SPARKLES;STRESS OUTLINED iSTAR;CIRCLED iSTAR;OPEN CENTRE nSTAR;nCENTRE iSTA",
    "R;OUTLINED nSTAR;HEAVY OUTLINED nSTAR;PINWHEEL STAR;SHADOWED iSTAR;HEAVY ASTERISK;OPEN CEN",
    "TRE ASTERISK;EIGHT SPOKED ASTERISK;EIGHT POINTED nSTAR;EIGHT POINTED PINWHEEL STAR;SIX POI",
    "NTED nSTAR;EIGHT POINTED RECTILINEAR nSTAR;HEAVY EIGHT POINTED RECTILINEAR nSTAR;TWELVE PO",
    "INTED nSTAR;SIXTEEN POINTED ASTERISK;TEARDROP-SPOKED ASTERISK;OPEN CENTRE TEARDROP-SPOKE",
    "D ASTERISK;HEAVY TEARDROP-SPOKED ASTERISK;SIX PETALLED BLACKgiFLORETTE;nFLORETTE;iFLORETTE",
    ";EIGHT PETALLED OUTLINED nFLORETTE;CIRCLED OPEN CENTRE EIGHT POINTED STAR;HEAVY TEARDROP-S",
    "POKED PINWHEEL ASTERISK;SNOWFLAKE;TIGHT TRIFOLIATE SNOWFLAKE;HEAVY CHEVRON SNOWFLAKE;SPARK",
    "LE;HEAVY SPARKLE;BALLOON-SPOKED ASTERISK;EIGHT TEARDROP-SPOKED PROPELLER ASTERISK;HEAVY EI",
    "GHT TEARDROP-SPOKED PROPELLER ASTERISK;CROSS MARK;SHADOWED iCIRCLE;NEGATIVE SQUARED CROS",
    "S MARK;LOWER tDROP-SHADOWED iSQUARE;UPPER tDROP-SHADOWED iSQUARE;LOWER tSHADOWED iSQUARE;U",
    "PPER tSHADOWED iSQUARE;nQUESTION MARK ORNAMENT;iQUESTION MARK ORNAMENT;iEXCLAMATION MARK O",
    "RNAMENT;nDIAMOND MINUS iX;HEAVY EXCLAMATION MARKl;LIGHT VERTICAL BAR;MEDIUM VERTICAL BAR;H",
    "EAVY VERTICAL BAR;HEAVY SINGLE TURNED COMMAy ORNAMENT;HEAVY SINGLE COMMAy ORNAMENT;HEAVY D",
    "OUBLE TURNED COMMAy ORNAMENT;HEAVY DOUBLE COMMAy ORNAMENT;HEAVY LOW SINGLE COMMAy ORNAMENT",
    ";HEAVY LOW DOUBLE COMMAy ORNAMENT;CURVED STEM PARAGRAPHm ORNAMENT;HEAVY EXCLAMATION MARK O",
    "RNAMENT;HEAVY HEART EXCLAMATION MARK ORNAMENT;HEAVY nHEART;ROTATED HEAVY nHEART BULLET;FLO",
    "RAL HEART;ROTATED FLORAL HEART BULLET;MEDIUM xPARENTHESIS ORNAMENT;MEDIUM tPARENTHESIS ORN",
    "AMENT;MEDIUM FLATTENED xPARENTHESIS ORNAMENT;MEDIUM FLATTENED tPARENTHESIS ORNAMENT;MEDIU",
    "M LEFT-POINTING ANGLE BRACKET ORNAMENT;MEDIUM RIGHT-POINTING ANGLE BRACKET ORNAMENT;HEAV",
    "Y LEFT-POINTING ANGLEy ORNAMENT;HEAVY RIGHT-POINTING ANGLEy ORNAMENT;HEAVY LEFT-POINTING A",
    "NGLE BRACKET ORNAMENT;HEAVY RIGHT-POINTING ANGLE BRACKET ORNAMENT;LIGHT xTORTOISE SHELL BR",
    "ACKET ORNAMENT;LIGHT tTORTOISE SHELL BRACKET ORNAMENT;MEDIUM xCURLY BRACKET ORNAMENT;MEDIU",
    "M tCURLY BRACKET ORNAMENT;ruONE;ruTWO;ruTHREE;ruFOUR;ruFIVE;ruSIX;ruSEVEN;ruEIGHT;ruNINE;r",
    "NUMBER TEN;DINGBAT CIRCLED SANS-SERIF uONE;DINGBAT CIRCLED SANS-SERIF uTWO;DINGBAT CIRCLE",
    "D SANS-SERIF uTHREE;DINGBAT CIRCLED SANS-SERIF uFOUR;DINGBAT CIRCLED SANS-SERIF uFIVE;DING",
    "BAT CIRCLED SANS-SERIF uSIX;DINGBAT CIRCLED SANS-SERIF uSEVEN;DINGBAT CIRCLED SANS-SERIF u",
    "EIGHT;DINGBAT CIRCLED SANS-SERIF uNINE;DINGBAT CIRCLED SANS-SERIF NUMBER TEN;rSANS-SERIF u",
    "ONE;rSANS-SERIF uTWO;rSANS-SERIF uTHREE;rSANS-SERIF uFOUR;rSANS-SERIF uFIVE;rSANS-SERIF uS",
    "IX;rSANS-SERIF uSEVEN;rSANS-SERIF uEIGHT;rSANS-SERIF uNINE;rSANS-SERIF NUMBER TEN;HEAVY WI",
    "DE-HEADED RIGHTWARDSo;HEAVY PLUSm;HEAVY MINUSm;HEAVY DIVISIONm;HEAVY SOUTH EASTo;HEAVY RIG",
    "HTWARDSo;HEAVY NORTH EASTo;DRAFTING POINT RIGHTWARDSo;HEAVY ROUND-TIPPED RIGHTWARDSo;TRIAN",
    "GLE-HEADED RIGHTWARDSo;HEAVY TRIANGLE-HEADED RIGHTWARDSo;DASHED TRIANGLE-HEADED RIGHTWARDS",
    "o;HEAVY DASHED TRIANGLE-HEADED RIGHTWARDSo;nRIGHTWARDSo;THREE-D TOP-LIGHTED RIGHTWARDSoHEA",
    "D;THREE-D BOTTOM-LIGHTED RIGHTWARDSoHEAD;nRIGHTWARDSoHEAD;HEAVY nCURVED DOWNWARDSgRIGHTWAR",
    "DSo;HEAVY nCURVED UPWARDSgRIGHTWARDSo;SQUAT nRIGHTWARDSo;HEAVY CONCAVE-POINTED nRIGHTWARDS",
    "o;RIGHT-SHADED iRIGHTWARDSo;LEFT-SHADED iRIGHTWARDSo;BACK-TILTED SHADOWED iRIGHTWARDSo;FRO",
    "NT-TILTED SHADOWED iRIGHTWARDSo;HEAVY LOWER RIGHT-SHADOWED iRIGHTWARDSo;HEAVY UPPER RIGHT-",
    "SHADOWED iRIGHTWARDSo;NOTCHED LOWER RIGHT-SHADOWED iRIGHTWARDSo;CURLY LOOP;NOTCHED UPPER R",
    "IGHT-SHADOWED iRIGHTWARDSo;CIRCLED HEAVY iRIGHTWARDSo;WHITE-FEATHERED RIGHTWARDSo;BLACK-FE",
    "ATHERED SOUTH EASTo;BLACK-FEATHERED RIGHTWARDSo;BLACK-FEATHERED NORTH EASTo;HEAVY BLACK-FE",
    "ATHERED SOUTH EASTo;HEAVY BLACK-FEATHERED RIGHTWARDSo;HEAVY BLACK-FEATHERED NORTH EASTo;TE",
    "ARDROP-BARBED RIGHTWARDSo;HEAVY TEARDROP-SHANKED RIGHTWARDSo;WEDGE-TAILED RIGHTWARDSo;HEAV",
    "Y WEDGE-TAILED RIGHTWARDSo;OPEN-OUTLINED RIGHTWARDSo;DOUBLE CURLY LOOP"]),
  (0x3000, [
    "IDEOGRAPHIC SPACE;IDEOGRAPHIC COMMA;IDEOGRAPHIC FULL STOP;DITTO MARK;JAPANESE INDUSTRIAL S",
    "TANDARDl;IDEOGRAPHIC ITERATION MARK;IDEOGRAPHIC CLOSING MARK;IDEOGRAPHIC NUMBER ZERO;xANGL",
    "E BRACKET;tANGLE BRACKET;xDOUBLE ANGLE BRACKET;tDOUBLE ANGLE BRACKET;xCORNER BRACKET;tCORN",
    "ER BRACKET;xiCORNER BRACKET;tiCORNER BRACKET;xnLENTICULAR BRACKET;tnLENTICULAR BRACKET;POS",
    "TAL MARK;GETA MARK;xTORTOISE SHELL BRACKET;tTORTOISE SHELL BRACKET;xiLENTICULAR BRACKET;ti",
    "LENTICULAR BRACKET;xiTORTOISE SHELL BRACKET;tiTORTOISE SHELL BRACKET;xiSQUARE BRACKET;tiSQ",
    "UARE BRACKET;WAVE DASH;REVERSED DOUBLE PRIMEy;DOUBLE PRIMEy;LOW DOUBLE PRIMEy"]),
  (0x3041, [
    "HIRAGANAaSMALL A;HIRAGANAaA;HIRAGANAaSMALL I;HIRAGANAaI;HIRAGANAaSMALL U;HIRAGANAaU;HIRAGA",
    "NAaSMALL E;HIRAGANAaE;HIRAGANAaSMALL O;HIRAGANAaO;HIRAGANAaKA;HIRAGANAaGA;HIRAGANAaKI;HIRA",
    "GANAaGI;HIRAGANAaKU;HIRAGANAaGU;HIRAGANAaKE;HIRAGANAaGE;HIRAGANAaKO;HIRAGANAaGO;HIRAGANAaS",
    "A;HIRAGANAaZA;HIRAGANAaSI;HIRAGANAaZI;HIRAGANAaSU;HIRAGANAaZU;HIRAGANAaSE;HIRAGANAaZE;HIRA",
    "GANAaSO;HIRAGANAaZO;HIRAGANAaTA;HIRAGANAaDA;HIRAGANAaTI;HIRAGANAaDI;HIRAGANAaSMALL TU;HIRA",
    "GANAaTU;HIRAGANAaDU;HIRAGANAaTE;HIRAGANAaDE;HIRAGANAaTO;HIRAGANAaDO;HIRAGANAaNA;HIRAGANAaN",
    "I;HIRAGANAaNU;HIRAGANAaNE;HIRAGANAaNO;HIRAGANAaHA;HIRAGANAaBA;HIRAGANAaPA;HIRAGANAaHI;HIRA",
    "GANAaBI;HIRAGANAaPI;HIRAGANAaHU;HIRAGANAaBU;HIRAGANAaPU;HIRAGANAaHE;HIRAGANAaBE;HIRAGANAaP",
    "E;HIRAGANAaHO;HIRAGANAaBO;HIRAGANAaPO;HIRAGANAaMA;HIRAGANAaMI;HIRAGANAaMU;HIRAGANAaME;HIRA",
    "GANAaMO;HIRAGANAaSMALL YA;HIRAGANAaYA;HIRAGANAaSMALL YU;HIRAGANAaYU;HIRAGANAaSMALL YO;HIRA",
    "GANAaYO;HIRAGANAaRA;HIRAGANAaRI;HIRAGANAaRU;HIRAGANAaRE;HIRAGANAaRO;HIRAGANAaSMALL WA;HIRA",
    "GANAaWA;HIRAGANAaWI;HIRAGANAaWE;HIRAGANAaWO;HIRAGANAaN;HIRAGANAaVU;HIRAGANAaSMALL KA;HIRAG",
    "ANAaSMALL KE"]),
  (0x30A0, [
    "KATAKANA-HIRAGANA DOUBLE HYPHEN;KATAKANAaSMALL A;KATAKANAaA;KATAKANAaSMALL I;KATAKANAaI;KA",
    "TAKANAaSMALL U;KATAKANAaU;KATAKANAaSMALL E;KATAKANAaE;KATAKANAaSMALL O;KATAKANAaO;KATAKANA",
    "aKA;KATAKANAaGA;KATAKANAaKI;KATAKANAaGI;KATAKANAaKU;KATAKANAaGU;KATAKANAaKE;KATAKANAaGE;KA",
    "TAKANAaKO;KATAKANAaGO;KATAKANAaSA;KATAKANAaZA;KATAKANAaSI;KATAKANAaZI;KATAKANAaSU;KATAKANA",
    "aZU;KATAKANAaSE;KATAKANAaZE;KATAKANAaSO;KATAKANAaZO;KATAKANAaTA;KATAKANAaDA;KATAKANAaTI;KA",
    "TAKANAaDI;KATAKANAaSMALL TU;KATAKANAaTU;KATAKANAaDU;KATAKANAaTE;KATAKANAaDE;KATAKANAaTO;KA",
    "TAKANAaDO;KATAKANAaNA;KATAKANAaNI;KATAKANAaNU;KATAKANAaNE;KATAKANAaNO;KATAKANAaHA;KATAKANA",
    "aBA;KATAKANAaPA;KATAKANAaHI;KATAKANAaBI;KATAKANAaPI;KATAKANAaHU;KATAKANAaBU;KATAKANAaPU;KA",
    "TAKANAaHE;KATAKANAaBE;KATAKANAaPE;KATAKANAaHO;KATAKANAaBO;KATAKANAaPO;KATAKANAaMA;KATAKANA",
    "aMI;KATAKANAaMU;KATAKANAaME;KATAKANAaMO;KATAKANAaSMALL YA;KATAKANAaYA;KATAKANAaSMALL YU;KA",
    "TAKANAaYU;KATAKANAaSMALL YO;KATAKANAaYO;KATAKANAaRA;KATAKANAaRI;KATAKANAaRU;KATAKANAaRE;KA",
    "TAKANAaRO;KATAKANAaSMALL WA;KATAKANAaWA;KATAKANAaWI;KATAKANAaWE;KATAKANAaWO;KATAKANAaN;KAT",
    "AKANAaVU;KATAKANAaSMALL KA;KATAKANAaSMALL KE;KATAKANAaVA;KATAKANAaVI;KATAKANAaVE;KATAKANAa",
    "VO;KATAKANA MIDDLE DOT;KATAKANA-HIRAGANA PROLONGED SOUND MARK;KATAKANA ITERATION MARK;KATA",
    "KANA VOICED ITERATION MARK;KATAKANA DIGRAPH KOTO"]),
  (0xFB00, [
    "cSMALL LIGATURE FF;cSMALL LIGATURE FI;cSMALL LIGATURE FL;cSMALL LIGATURE FFI;cSMALL LIGATU",
    "RE FFL;cSMALL LIGATURE LONG S T;cSMALL LIGATURE ST"]),
  (0xFF01, [
    "hEXCLAMATION MARK;hQUOTATION MARK;hNUMBERm;hDOLLARm;hPERCENTm;hAMPERSAND;hAPOSTROPHE;hxPAR",
    "ENTHESIS;htPARENTHESIS;hASTERISK;hPLUSm;hCOMMA;hHYPHEN-MINUS;hFULL STOP;hSOLIDUS;huZERO;hu",
    "ONE;huTWO;huTHREE;huFOUR;huFIVE;huSIX;huSEVEN;huEIGHT;huNINE;hCOLON;hSEMICOLON;hLESS-THANm",
    ";hEQUALSm;hGREATER-THANm;hQUESTION MARK;hCOMMERCIAL AT;hcCAPITALaA;hcCAPITALaB;hcCAPITALaC",
    ";hcCAPITALaD;hcCAPITALaE;hcCAPITALaF;hcCAPITALaG;hcCAPITALaH;hcCAPITALaI;hcCAPITALaJ;hcCAP",
    "ITALaK;hcCAPITALaL;hcCAPITALaM;hcCAPITALaN;hcCAPITALaO;hcCAPITALaP;hcCAPITALaQ;hcCAPITALaR",
    ";hcCAPITALaS;hcCAPITALaT;hcCAPITALaU;hcCAPITALaV;hcCAPITALaW;hcCAPITALaX;hcCAPITALaY;hcCAP",
    "ITALaZ;hxSQUARE BRACKET;hREVERSE SOLIDUS;htSQUARE BRACKET;hCIRCUMFLEX ACCENT;hLOW LINE;hGR",
    "AVE ACCENT;hcSMALLaA;hcSMALLaB;hcSMALLaC;hcSMALLaD;hcSMALLaE;hcSMALLaF;hcSMALLaG;hcSMALLaH",
    ";hcSMALLaI;hcSMALLaJ;hcSMALLaK;hcSMALLaL;hcSMALLaM;hcSMALLaN;hcSMALLaO;hcSMALLaP;hcSMALLaQ",
    ";hcSMALLaR;hcSMALLaS;hcSMALLaT;hcSMALLaU;hcSMALLaV;hcSMALLaW;hcSMALLaX;hcSMALLaY;hcSMALLaZ",
    ";hxCURLY BRACKET;hVERTICAL LINE;htCURLY BRACKET;hTILDE"]),
  (0xFFFC, ["OBJECT REPLACEMENT CHARACTER;REPLACEMENT CHARACTER"]),
  (0x1D400, [
    "fCAPITAL A;fCAPITAL B;fCAPITAL C;fCAPITAL D;fCAPITAL E;fCAPITAL F;fCAPITAL G;fCAPITAL H;fC",
    "APITAL I;fCAPITAL J;fCAPITAL K;fCAPITAL L;fCAPITAL M;fCAPITAL N;fCAPITAL O;fCAPITAL P;fCAP",
    "ITAL Q;fCAPITAL R;fCAPITAL S;fCAPITAL T;fCAPITAL U;fCAPITAL V;fCAPITAL W;fCAPITAL X;fCAPIT",
    "AL Y;fCAPITAL Z;fSMALL A;fSMALL B;fSMALL C;fSMALL D;fSMALL E;fSMALL F;fSMALL G;fSMALL H;fS",
    "MALL I;fSMALL J;fSMALL K;fSMALL L;fSMALL M;fSMALL N;fSMALL O;fSMALL P;fSMALL Q;fSMALL R;fS",
    "MALL S;fSMALL T;fSMALL U;fSMALL V;fSMALL W;fSMALL X;fSMALL Y;fSMALL Z"]),
  (0x1F300, [
    "CYCLONE;FOGGY;CLOSED UMBRELLA;NIGHTbSTARS;SUNRISE OVER MOUNTAINS;SUNRISE;CITYSCAPE AT DUSK",
    ";SUNSET OVER BUILDINGS;RAINBOW;BRIDGE AT NIGHT;WATER WAVE;VOLCANO;MILKY WAY;EARTH GLOBE EU",
    "ROPE-AFRICA;EARTH GLOBE AMERICAS;EARTH GLOBE ASIA-AUSTRALIA;GLOBEbMERIDIANS;NEW MOONl;WAXI",
    "NG CRESCENT MOONl;FIRST QUARTER MOONl;WAXING GIBBOUS MOONl;FULL MOONl;WANING GIBBOUS MOONl",
    ";LAST QUARTER MOONl;WANING CRESCENT MOONl;CRESCENT MOON;NEW MOONbFACE;FIRST QUARTER MOONbF",
    "ACE;LAST QUARTER MOONbFACE;FULL MOONbFACE;SUNbFACE;GLOWING STAR;SHOOTING STAR;THERMOMETER;",
    "nDROPLET;iSUN;iSUNbSMALL CLOUD;iSUN BEHIND CLOUD;iSUN BEHIND CLOUDbRAIN;CLOUDbRAIN;CLOUDbS",
    "NOW;CLOUDbLIGHTNING;CLOUDbTORNADO;FOG;WIND BLOWINGz;HOT DOG;TACO;BURRITO;CHESTNUT;SEEDLING",
    ";EVERGREEN TREE;DECIDUOUS TREE;PALM TREE;CACTUS;HOT PEPPER;TULIP;CHERRY BLOSSOM;ROSE;HIBIS",
    "CUS;SUNFLOWER;BLOSSOM;EAR OF MAIZE;EAR OF RICE;HERB;FOUR LEAF CLOVER;MAPLE LEAF;FALLEN LEA",
    "F;LEAF FLUTTERING IN WIND;MUSHROOM;TOMATO;AUBERGINE;GRAPES;MELON;WATERMELON;TANGERINE;LEMO",
    "N;BANANA;PINEAPPLE;RED APPLE;GREEN APPLE;PEAR;PEACH;CHERRIES;STRAWBERRY;HAMBURGER;SLICE O",
    "F PIZZA;MEAT ON BONE;POULTRY LEG;RICE CRACKER;RICE BALL;COOKED RICE;CURRYgRICE;STEAMING BO",
    "WL;SPAGHETTI;BREAD;FRENCH FRIES;ROASTED SWEET POTATO;DANGO;ODEN;SUSHI;FRIED SHRIMP;FISH CA",
    "KEbSWIRL DESIGN;SOFT ICE CREAM;SHAVED ICE;ICE CREAM;DOUGHNUT;COOKIE;CHOCOLATE BAR;CANDY;LO",
    "LLIPOP;CUSTARD;HONEY POT;SHORTCAKE;BENTO BOX;POT OF FOOD;COOKING;FORKgKNIFE;TEACUP WITHOU",
    "T HANDLE;SAKE BOTTLEgCUP;WINE GLASS;COCKTAIL GLASS;TROPICAL DRINK;BEER MUG;CLINKING BEER M",
    "UGS;BABY BOTTLE;FORKgKNIFEbPLATE;BOTTLEbPOPPING CORK;POPCORN;RIBBON;WRAPPED PRESENT;BIRTHD",
    "AY CAKE;JACK-O-LANTERN;CHRISTMAS TREE;FATHER CHRISTMAS;FIREWORKS;FIREWORK SPARKLER;BALLOON",
    ";PARTY POPPER;CONFETTI BALL;TANABATA TREE;CROSSED FLAGS;PINE DECORATION;JAPANESE DOLLS;CAR",
    "P STREAMER;WIND CHIME;MOON VIEWING CEREMONY;SCHOOL SATCHEL;GRADUATION CAP;HEARTbTIP ON TH",
    "E LEFT;BOUQUET OF FLOWERS;MILITARY MEDAL;REMINDER RIBBON;MUSICAL KEYBOARDbJACKS;STUDIO MIC",
    "ROPHONE;LEVEL SLIDER;CONTROL KNOBS;BEAMED ASCENDING MUSICAL NOTES;BEAMED DESCENDING MUSICA",
    "L NOTES;FILM FRAMES;ADMISSION TICKETS;CAROUSEL HORSE;FERRIS WHEEL;ROLLER COASTER;FISHING P",
    "OLEgFISH;MICROPHONE;MOVIE CAMERA;CINEMA;HEADPHONE;ARTIST PALETTE;TOP HAT;CIRCUS TENT;TICKE",
    "T;CLAPPER BOARD;PERFORMING ARTS;VIDEO GAME;DIRECT HIT;SLOT MACHINE;BILLIARDS;GAME DIE;BOWL",
    "ING;FLOWER PLAYING CARDS;MUSICAL NOTE;MULTIPLE MUSICAL NOTES;SAXOPHONE;GUITAR;MUSICAL KEYB",
    "OARD;TRUMPET;VIOLIN;MUSICAL SCORE;RUNNING SHIRTbSASH;TENNIS RACQUETgBALL;SKIgSKI BOOT;BASK",
    "ETBALLgHOOP;CHEQUERED FLAG;SNOWBOARDER;RUNNER;SURFER;SPORTS MEDAL;TROPHY;HORSE RACING;AMER",
    "ICAN FOOTBALL;RUGBY FOOTBALL;SWIMMER;WEIGHT LIFTER;GOLFER;RACING MOTORCYCLE;RACING CAR;CRI",
    "CKET BATgBALL;VOLLEYBALL;FIELD HOCKEY STICKgBALL;ICE HOCKEY STICKgPUCK;TABLE TENNIS PADDLE",
    "gBALL;SNOW CAPPED MOUNTAIN;CAMPING;BEACHbUMBRELLA;BUILDING CONSTRUCTION;HOUSE BUILDINGS;CI",
    "TYSCAPE;DERELICT HOUSE BUILDING;CLASSICAL BUILDING;DESERT;DESERT ISLAND;NATIONAL PARK;STAD",
    "IUM;HOUSE BUILDING;HOUSEbGARDEN;OFFICE BUILDING;JAPANESE POST OFFICE;EUROPEAN POST OFFICE;",
    "HOSPITAL;BANK;AUTOMATED TELLER MACHINE;HOTEL;LOVE HOTEL;CONVENIENCE STORE;SCHOOL;DEPARTMEN",
    "T STORE;FACTORY;IZAKAYA LANTERN;JAPANESE CASTLE;EUROPEAN CASTLE;iPENNANT;nPENNANT;WAVING i",
    "FLAG;WAVING nFLAG;ROSETTE;nROSETTE;LABEL;BADMINTON RACQUETgSHUTTLECOCK;BOWgARROW;AMPHORA;E",
    "MOJI MODIFIER FITZPATRICK TYPE-1-2;EMOJI MODIFIER FITZPATRICK TYPE-3;EMOJI MODIFIER FITZPA",
    "TRICK TYPE-4;EMOJI MODIFIER FITZPATRICK TYPE-5;EMOJI MODIFIER FITZPATRICK TYPE-6;RAT;MOUSE",
    ";OX;WATER BUFFALO;COW;TIGER;LEOPARD;RABBIT;CAT;DRAGON;CROCODILE;WHALE;SNAIL;SNAKE;HORSE;RA",
    "M;GOAT;SHEEP;MONKEY;ROOSTER;CHICKEN;DOG;PIG;BOAR;ELEPHANT;OCTOPUS;SPIRAL SHELL;BUG;ANT;HON",
    "EYBEE;LADY BEETLE;FISH;TROPICAL FISH;BLOWFISH;TURTLE;HATCHING CHICK;BABY CHICK;FRONT-FACIN",
    "G BABY CHICK;BIRD;PENGUIN;KOALA;POODLE;DROMEDARY CAMEL;BACTRIAN CAMEL;DOLPHIN;MOUSEz;COWz;",
    "TIGERz;RABBITz;CATz;DRAGONz;SPOUTING WHALE;HORSEz;MONKEYz;DOGz;PIGz;FROGz;HAMSTERz;WOLFz;B",
    "EARz;PANDAz;PIG NOSE;PAW PRINTS;CHIPMUNK;EYES;EYE;EAR;NOSE;MOUTH;TONGUE;iUP POINTING BACKH",
    "AND INDEX;iDOWN POINTING BACKHAND INDEX;ixPOINTING BACKHAND INDEX;itPOINTING BACKHAND INDE",
    "X;FISTED HANDm;WAVING HANDm;OK HANDm;THUMBS UPm;THUMBS DOWNm;CLAPPING HANDSm;OPEN HANDSm;C",
    "ROWN;WOMANS HAT;EYEGLASSES;NECKTIE;T-SHIRT;JEANS;DRESS;KIMONO;BIKINI;WOMANS CLOTHES;PURSE;",
    "HANDBAG;POUCH;MANS SHOE;ATHLETIC SHOE;HIGH-HEELED SHOE;WOMANS SANDAL;WOMANS BOOTS;FOOTPRIN",
    "TS;BUST IN SILHOUETTE;BUSTS IN SILHOUETTE;BOY;GIRL;MAN;WOMAN;FAMILY;MANgWOMAN HOLDING HAND",
    "S;TWO MEN HOLDING HANDS;TWO WOMEN HOLDING HANDS;POLICE OFFICER;WOMANbBUNNY EARS;BRIDEbVEIL",
    ";PERSONbBLOND HAIR;MANbGUA PI MAO;MANbTURBAN;OLDER MAN;OLDER WOMAN;BABY;CONSTRUCTION WORKE",
    "R;PRINCESS;JAPANESE OGRE;JAPANESE GOBLIN;GHOST;BABY ANGEL;EXTRATERRESTRIAL ALIEN;ALIEN MON",
    "STER;IMP;SKULL;INFORMATION DESK PERSON;GUARDSMAN;DANCER;LIPSTICK;NAIL POLISH;FACE MASSAGE;",
    "HAIRCUT;BARBER POLE;SYRINGE;PILL;KISS MARK;LOVE LETTER;RING;GEM STONE;KISS;BOUQUET;COUPLEb",
    "HEART;WEDDING;BEATING HEART;BROKEN HEART;TWO HEARTS;SPARKLING HEART;GROWING HEART;HEARTbAR",
    "ROW;BLUE HEART;GREEN HEART;YELLOW HEART;PURPLE HEART;HEARTbRIBBON;REVOLVING HEARTS;HEART D",
    "ECORATION;DIAMOND SHAPEbA DOT INSIDE;ELECTRIC LIGHT BULB;ANGERl;BOMB;SLEEPINGl;COLLISIONl;",
    "SPLASHING SWEATl;DROPLET;DASHl;PILE OF POO;FLEXED BICEPS;DIZZYl;SPEECH BALLOON;THOUGHT BAL",
    "LOON;iFLOWER;HUNDRED POINTSl;MONEY BAG;CURRENCY EXCHANGE;HEAVY DOLLARm;CREDIT CARD;BANKNOT",
    "EbYENm;BANKNOTEbDOLLARm;BANKNOTEbEUROm;BANKNOTEbPOUNDm;MONEYbWINGS;CHARTbUPWARDS TRENDgYEN",
    "m;SEAT;PERSONAL COMPUTER;BRIEFCASE;MINIDISC;FLOPPY DISK;OPTICAL DISC;DVD;FILE FOLDER;OPE",
    "N FILE FOLDER;PAGEbCURL;PAGE FACING UP;CALENDAR;TEAR-OFF CALENDAR;CARD INDEX;CHARTbUPWARD",
    "S TREND;CHARTbDOWNWARDS TREND;BAR CHART;CLIPBOARD;PUSHPIN;ROUND PUSHPIN;PAPERCLIP;STRAIGH",
    "T RULER;TRIANGULAR RULER;BOOKMARK TABS;LEDGER;NOTEBOOK;NOTEBOOKbDECORATIVE COVER;CLOSED BO",
    "OK;OPEN BOOK;GREEN BOOK;BLUE BOOK;ORANGE BOOK;BOOKS;NAME BADGE;SCROLL;MEMO;TELEPHONE RECEI",
    "VER;PAGER;FAX MACHINE;SATELLITE ANTENNA;PUBLIC ADDRESS LOUDSPEAKER;CHEERING MEGAPHONE;OUTB",
    "OX TRAY;INBOX TRAY;PACKAGE;E-MAILl;INCOMING ENVELOPE;ENVELOPEbDOWNWARDSov;CLOSED MAILBOXbL",
    "OWERED FLAG;CLOSED MAILBOXbRAISED FLAG;OPEN MAILBOXbRAISED FLAG;OPEN MAILBOXbLOWERED FLAG;",
    "POSTBOX;POSTAL HORN;NEWSPAPER;MOBILE PHONE;MOBILE PHONEbRIGHTWARDSo AT LEFT;VIBRATION MODE",
    ";MOBILE PHONE OFF;NO MOBILE PHONES;ANTENNAbBARS;CAMERA;CAMERAbFLASH;VIDEO CAMERA;TELEVISIO",
    "N;RADIO;VIDEOCASSETTE;FILM PROJECTOR;PORTABLE STEREO;PRAYER BEADS;TWISTED RIGHTWARDSoS;CLO",
    "CKWISE RIGHTWARDSgLEFTWARDS OPEN CIRCLEoS;CLOCKWISE RIGHTWARDSgLEFTWARDS OPEN CIRCLEoSbCIR",
    "CLED ONE OVERLAY;CLOCKWISE DOWNWARDSgUPWARDS OPEN CIRCLEoS;ANTICLOCKWISE DOWNWARDSgUPWARD",
    "S OPEN CIRCLEoS;LOW BRIGHTNESSl;HIGH BRIGHTNESSl;SPEAKERbCANCELLATION STROKE;SPEAKER;SPEAK",
    "ERbONE SOUND WAVE;SPEAKERbTHREE SOUND WAVES;BATTERY;ELECTRIC PLUG;LEFT-POINTING MAGNIFYIN",
    "G GLASS;RIGHT-POINTING MAGNIFYING GLASS;LOCKbINK PEN;CLOSED LOCKbKEY;KEY;LOCK;OPEN LOCK;BE",
    "LL;BELLbCANCELLATION STROKE;BOOKMARK;LINKl;RADIO BUTTON;BACKbLEFTWARDSov;ENDbLEFTWARDSov;O",
    "NbEXCLAMATION MARKbxRIGHTov;SOONbRIGHTWARDSov;TOPbUPWARDSov;NO ONE UNDER EIGHTEENl;KEYCA",
    "P TEN;INPUTl FOR cCAPITAL LETTERS;INPUTl FOR cSMALL LETTERS;INPUTl FOR NUMBERS;INPUTl FORl",
    "S;INPUTl FOR cLETTERS;FIRE;ELECTRIC TORCH;WRENCH;HAMMER;NUTgBOLT;HOCHO;PISTOL;MICROSCOPE;T",
    "ELESCOPE;CRYSTAL BALL;SIX POINTED STARbMIDDLE DOT;JAPANESEl FOR BEGINNER;TRIDENT EMBLEM;nS",
    "QUARE BUTTON;iSQUARE BUTTON;LARGE RED CIRCLE;LARGE BLUE CIRCLE;LARGE ORANGE DIAMOND;LARG",
    "E BLUE DIAMOND;SMALL ORANGE DIAMOND;SMALL BLUE DIAMOND;UP-POINTING RED TRIANGLE;DOWN-POINT",
    "ING RED TRIANGLE;UP-POINTING SMALL RED TRIANGLE;DOWN-POINTING SMALL RED TRIANGLE;LOWER tSH",
    "ADOWED iCIRCLE;UPPER tSHADOWED iCIRCLE;CIRCLED CROSS POMMEE;CROSS POMMEEbHALF-CIRCLEq;CROS",
    "S POMMEE;NOTCHED xSEMICIRCLEbTHREE DOTS;NOTCHED tSEMICIRCLEbTHREE DOTS;SYMBOL FOR MARKS CH",
    "APTER;icCROSS;HEAVY cCROSS;CELTIC CROSS;OMl;DOVE OF PEACE;KAABA;MOSQUE;SYNAGOGUE;MENORAHbN",
    "INE BRANCHES;BOWL OF HYGIEIA;CLOCKz ONE OCLOCK;CLOCKz TWO OCLOCK;CLOCKz THREE OCLOCK;CLOCK",
    "z FOUR OCLOCK;CLOCKz FIVE OCLOCK;CLOCKz SIX OCLOCK;CLOCKz SEVEN OCLOCK;CLOCKz EIGHT OCLOCK",
    ";CLOCKz NINE OCLOCK;CLOCKz TEN OCLOCK;CLOCKz ELEVEN OCLOCK;CLOCKz TWELVE OCLOCK;CLOCKz ONE",
    "-THIRTY;CLOCKz TWO-THIRTY;CLOCKz THREE-THIRTY;CLOCKz FOUR-THIRTY;CLOCKz FIVE-THIRTY;CLOCK",
    "z SIX-THIRTY;CLOCKz SEVEN-THIRTY;CLOCKz EIGHT-THIRTY;CLOCKz NINE-THIRTY;CLOCKz TEN-THIRTY;",
    "CLOCKz ELEVEN-THIRTY;CLOCKz TWELVE-THIRTY;tSPEAKER;tSPEAKERbONE SOUND WAVE;tSPEAKERbTHRE",
    "E SOUND WAVES;BULLHORN;BULLHORNbSOUND WAVES;RINGING BELL;BOOK;CANDLE;MANTELPIECE CLOCK;nSK",
    "ULLgCROSSBONES;NO PIRACY;HOLE;MAN IN BUSINESS SUIT LEVITATING;SLEUTH OR SPY;DARK SUNGLASSE",
    "S;SPIDER;SPIDER WEB;JOYSTICK;MAN DANCING;xHAND TELEPHONE RECEIVER;TELEPHONE RECEIVERbPAGE;",
    "tHAND TELEPHONE RECEIVER;iTOUCHTONE TELEPHONE;nTOUCHTONE TELEPHONE;TELEPHONE ON TOP OF MOD",
    "EM;CLAMSHELL MOBILE PHONE;BACK OF ENVELOPE;STAMPED ENVELOPE;ENVELOPEbLIGHTNING;FLYING ENVE",
    "LOPE;PEN OVER STAMPED ENVELOPE;LINKED PAPERCLIPS;nPUSHPIN;LOWER xPENCIL;LOWER xBALLPOINT P",
    "EN;LOWER xFOUNTAIN PEN;LOWER xPAINTBRUSH;LOWER xCRAYON;xWRITING HAND;TURNED OK HANDm;RAISE",
    "D HANDbFINGERS SPLAYED;REVERSED RAISED HANDbFINGERS SPLAYED;REVERSED THUMBS UPm;REVERSED T",
    "HUMBS DOWNm;REVERSED VICTORY HAND;REVERSED HANDbMIDDLE FINGER EXTENDED;RAISED HANDbPART BE",
    "TWEEN MIDDLEgRING FINGERS;iDOWN POINTING xHAND INDEX;SIDEWAYS ixPOINTING INDEX;SIDEWAYS it",
    "POINTING INDEX;SIDEWAYS nxPOINTING INDEX;SIDEWAYS ntPOINTING INDEX;nxPOINTING BACKHAND IND",
    "EX;ntPOINTING BACKHAND INDEX;SIDEWAYS iUP POINTING INDEX;SIDEWAYS iDOWN POINTING INDEX;SID",
    "EWAYS nUP POINTING INDEX;SIDEWAYS nDOWN POINTING INDEX;nUP POINTING BACKHAND INDEX;nDOWN P",
    "OINTING BACKHAND INDEX;nHEART;DESKTOP COMPUTER;KEYBOARDgMOUSE;THREE NETWORKED COMPUTERS;PR",
    "INTER;POCKET CALCULATOR;nHARD SHELL FLOPPY DISK;iHARD SHELL FLOPPY DISK;SOFT SHELL FLOPP",
    "Y DISK;TAPE CARTRIDGE;WIRED KEYBOARD;ONE BUTTON MOUSE;TWO BUTTON MOUSE;THREE BUTTON MOUSE;",
    "TRACKBALL;OLD PERSONAL COMPUTER;HARD DISK;SCREEN;PRINTER ICON;FAX ICON;OPTICAL DISC ICON;D",
    "OCUMENTbTEXT;DOCUMENTbTEXTgPICTURE;DOCUMENTbPICTURE;FRAMEbPICTURE;FRAMEbTILES;FRAMEbAN X;n",
    "FOLDER;FOLDER;OPEN FOLDER;CARD INDEX DIVIDERS;CARD FILE BOX;FILE CABINET;EMPTY NOTE;EMPT",
    "Y NOTE PAGE;EMPTY NOTE PAD;NOTE;NOTE PAGE;NOTE PAD;EMPTY DOCUMENT;EMPTY PAGE;EMPTY PAGES;D",
    "OCUMENT;PAGE;PAGES;WASTEBASKET;SPIRAL NOTE PAD;SPIRAL CALENDAR PAD;DESKTOP WINDOW;MINIMIZE",
    ";MAXIMIZE;OVERLAP;CLOCKWISE RIGHTgxSEMICIRCLEoS;CANCELLATION X;INCREASE FONT SIZEl;DECREAS",
    "E FONT SIZEl;COMPRESSION;OLD KEY;ROLLED-UP NEWSPAPER;PAGEbCIRCLED TEXT;STOCK CHART;DAGGE",
    "R KNIFE;LIPS;SPEAKING HEAD IN SILHOUETTE;THREE RAYSv;THREE RAYSq;THREE RAYS LEFT;THREE RAY",
    "S RIGHT;xSPEECH BUBBLE;tSPEECH BUBBLE;TWO SPEECH BUBBLES;THREE SPEECH BUBBLES;xTHOUGHT BUB",
    "BLE;tTHOUGHT BUBBLE;xANGER BUBBLE;tANGER BUBBLE;MOOD BUBBLE;LIGHTNING MOOD BUBBLE;LIGHTNIN",
    "G MOOD;BALLOT BOXbBALLOT;BALLOT SCRIPT X;BALLOT BOXbSCRIPT X;BALLOT BOLD SCRIPT X;BALLOT B",
    "OXbBOLD SCRIPT X;LIGHT CHECK MARK;BALLOT BOXbBOLD CHECK;WORLD MAP;MOUNT FUJI;TOKYO TOWER;S",
    "TATUE OF LIBERTY;SILHOUETTE OF JAPAN;MOYAI;GRINNINGz;GRINNINGzbSMILING EYES;FACEbTEARS O",
    "F JOY;SMILINGzbOPEN MOUTH;SMILINGzbOPEN MOUTHgSMILING EYES;SMILINGzbOPEN MOUTHgCOLD SWEAT;",
    "SMILINGzbOPEN MOUTHgTIGHTLY-CLOSED EYES;SMILINGzbHALO;SMILINGzbHORNS;WINKINGz;SMILINGzbSMI",
    "LING EYES;FACE SAVOURING DELICIOUS FOOD;RELIEVEDz;SMILINGzbHEART-SHAPED EYES;SMILINGzbSUNG",
    "LASSES;SMIRKINGz;NEUTRALz;EXPRESSIONLESSz;UNAMUSEDz;FACEbCOLD SWEAT;PENSIVEz;CONFUSEDz;CON",
    "FOUNDEDz;KISSINGz;FACE THROWING A KISS;KISSINGzbSMILING EYES;KISSINGzbCLOSED EYES;FACEbSTU",
    "CK-OUT TONGUE;FACEbSTUCK-OUT TONGUEgWINKING EYE;FACEbSTUCK-OUT TONGUEgTIGHTLY-CLOSED EYES;",
    "DISAPPOINTEDz;WORRIEDz;ANGRYz;POUTINGz;CRYINGz;PERSEVERINGz;FACEbLOOK OF TRIUMPH;DISAPPOIN",
    "TED BUT RELIEVEDz;FROWNINGzbOPEN MOUTH;ANGUISHEDz;FEARFULz;WEARYz;SLEEPYz;TIREDz;GRIMACING",
    "z;LOUDLY CRYINGz;FACEbOPEN MOUTH;HUSHEDz;FACEbOPEN MOUTHgCOLD SWEAT;FACE SCREAMING IN FEAR",
    ";ASTONISHEDz;FLUSHEDz;SLEEPINGz;DIZZYz;FACE WITHOUT MOUTH;FACEbMEDICAL MASK;GRINNING CATzb",
    "SMILING EYES;CATzbTEARS OF JOY;SMILING CATzbOPEN MOUTH;SMILING CATzbHEART-SHAPED EYES;CATz",
    "bWRY SMILE;KISSING CATzbCLOSED EYES;POUTING CATz;CRYING CATz;WEARY CATz;SLIGHTLY FROWNINGz",
    ";SLIGHTLY SMILINGz;UPSIDE-DOWNz;FACEbROLLING EYES;FACEbNO GOOD GESTURE;FACEbOK GESTURE;PER",
    "SON BOWING DEEPLY;SEE-NO-EVIL MONKEY;HEAR-NO-EVIL MONKEY;SPEAK-NO-EVIL MONKEY;HAPPY PERSO",
    "N RAISING ONE HAND;PERSON RAISING BOTH HANDS IN CELEBRATION;PERSON FROWNING;PERSONbPOUTING",
    "z;PERSONbFOLDED HANDS"]),
  (0x1F680, [
    "ROCKET;HELICOPTER;STEAM LOCOMOTIVE;RAILWAY CAR;HIGH-SPEED TRAIN;HIGH-SPEED TRAINbBULLET NO",
    "SE;TRAIN;METRO;LIGHT RAIL;STATION;TRAM;TRAM CAR;BUS;ONCOMING BUS;TROLLEYBUS;BUS STOP;MINIB",
    "US;AMBULANCE;FIRE ENGINE;POLICE CAR;ONCOMING POLICE CAR;TAXI;ONCOMING TAXI;AUTOMOBILE;ONCO",
    "MING AUTOMOBILE;RECREATIONAL VEHICLE;DELIVERY TRUCK;ARTICULATED LORRY;TRACTOR;MONORAIL;MOU",
    "NTAIN RAILWAY;SUSPENSION RAILWAY;MOUNTAIN CABLEWAY;AERIAL TRAMWAY;SHIP;ROWBOAT;SPEEDBOAT;H",
    "ORIZONTAL TRAFFIC LIGHT;VERTICAL TRAFFIC LIGHT;CONSTRUCTIONm;POLICE CARS REVOLVING LIGHT;T",
    "RIANGULAR FLAG ON POST;DOOR;NO ENTRYm;SMOKINGl;NO SMOKINGl;PUT LITTER IN ITS PLACEl;DO NO",
    "T LITTERl;POTABLE WATERl;NON-POTABLE WATERl;BICYCLE;NO BICYCLES;BICYCLIST;MOUNTAIN BICYCLI",
    "ST;PEDESTRIAN;NO PEDESTRIANS;CHILDREN CROSSING;MENSl;WOMENSl;RESTROOM;BABYl;TOILET;WATER C",
    "LOSET;SHOWER;BATH;BATHTUB;PASSPORT CONTROL;CUSTOMS;BAGGAGE CLAIM;xLUGGAGE"])]

/-- Further names of characters. -/
def furtherNames : List (Nat × List String) := [
  (0x0, ["NULL", "NUL"]),
  (0x1, ["START OF HEADING", "SOH"]),
  (0x2, ["START OF TEXT", "STX"]),
  (0x3, ["END OF TEXT", "ETX"]),
  (0x4, ["END OF TRANSMISSION", "EOT"]),
  (0x5, ["ENQUIRY", "ENQ"]),
  (0x6, ["ACKNOWLEDGE", "ACK"]),
  (0x7, ["ALERT", "BEL"]),
  (0x8, ["BACKSPACE", "BS"]),
  (0x9, ["CHARACTER TABULATION", "HORIZONTAL TABULATION", "HT", "TAB"]),
  (0xA, ["LINE FEED", "NEW LINE", "END OF LINE", "LF", "NL", "EOL"]),
  (0xB, ["LINE TABULATION", "VERTICAL TABULATION", "VT"]),
  (0xC, ["FORM FEED", "FF"]),
  (0xD, ["CARRIAGE RETURN", "CR"]),
  (0xE, ["SHIFT OUT", "LOCKING-SHIFT ONE", "SO"]),
  (0xF, ["SHIFT IN", "LOCKING-SHIFT ZERO", "SI"]),
  (0x10, ["DATA LINK ESCAPE", "DLE"]),
  (0x11, ["DEVICE CONTROL ONE", "DC1"]),
  (0x12, ["DEVICE CONTROL TWO", "DC2"]),
  (0x13, ["DEVICE CONTROL THREE", "DC3"]),
  (0x14, ["DEVICE CONTROL FOUR", "DC4"]),
  (0x15, ["NEGATIVE ACKNOWLEDGE", "NAK"]),
  (0x16, ["SYNCHRONOUS IDLE", "SYN"]),
  (0x17, ["END OF TRANSMISSION BLOCK", "ETB"]),
  (0x18, ["CANCEL", "CAN"]),
  (0x19, ["END OF MEDIUM", "EOM"]),
  (0x1A, ["SUBSTITUTE", "SUB"]),
  (0x1B, ["ESCAPE", "ESC"]),
  (0x1C, ["INFORMATION SEPARATOR FOUR", "FILE SEPARATOR", "FS"]),
  (0x1D, ["INFORMATION SEPARATOR THREE", "GROUP SEPARATOR", "GS"]),
  (0x1E, ["INFORMATION SEPARATOR TWO", "RECORD SEPARATOR", "RS"]),
  (0x1F, ["INFORMATION SEPARATOR ONE", "UNIT SEPARATOR", "US"]),
  (0x20, ["SP"]),
  (0x7F, ["DELETE", "DEL"]),
  (0x85, ["NEXT LINE", "NEL"]),
  (0xA0, ["NBSP"]),
  (0xAD, ["SHY"]),
  (0x200B, ["ZWSP"]),
  (0x200C, ["ZWNJ"]),
  (0x200D, ["ZWJ"]),
  (0x200E, ["LRM"]),
  (0x200F, ["RLM"]),
  (0x202F, ["NNBSP"]),
  (0x2060, ["WJ"]),
  (0x202A, ["LRE"]),
  (0x202B, ["RLE"]),
  (0x202C, ["PDF"]),
  (0x202D, ["LRO"]),
  (0x202E, ["RLO"]),
  (0xFEFF, ["ZERO WIDTH NO-BREAK SPACE", "BYTE ORDER MARK", "BOM", "ZWNBSP"]),
  (0x80, ["PADDING CHARACTER", "PAD"]),
  (0x81, ["HIGH OCTET PRESET", "HOP"]),
  (0x82, ["BREAK PERMITTED HERE", "BPH"]),
  (0x83, ["NO BREAK HERE", "NBH"]),
  (0x84, ["INDEX", "IND"]),
  (0x86, ["START OF SELECTED AREA", "SSA"]),
  (0x87, ["END OF SELECTED AREA", "ESA"]),
  (0x88, ["CHARACTER TABULATION SET", "HTS"]),
  (0x8D, ["REVERSE LINE FEED", "REVERSE INDEX", "RI"]),
  (0x8E, ["SINGLE SHIFT TWO", "SS2"]),
  (0x8F, ["SINGLE SHIFT THREE", "SS3"]),
  (0x90, ["DEVICE CONTROL STRING", "DCS"]),
  (0x98, ["START OF STRING", "SOS"]),
  (0x9B, ["CONTROL SEQUENCE INTRODUCER", "CSI"]),
  (0x9C, ["STRING TERMINATOR", "ST"]),
  (0x9D, ["OPERATING SYSTEM COMMAND", "OSC"]),
  (0x1A2, ["LATIN CAPITAL LETTER GHA"]),
  (0x1A3, ["LATIN SMALL LETTER GHA"]),
  (0x2118, ["WEIERSTRASS ELLIPTIC FUNCTION"])]

/-- A name without its short forms. -/
def fullName (name : List Char) : List Char :=
  phrases.foldr (fun p s => s.flatMap fun c => if c = p.1 then p.2.toList else [c]) name

/-- The character with a name in a block, whose names are numbered from `n` on. -/
def namedIn (name : List Char) : Nat → List (List Char) → Option Nat
  | _, [] => none
  | n, s :: ss => if fullName s = name then some n else namedIn name (n + 1) ss

/-! ## Names that follow from a number -/

/-- The number that capital hexadecimal digits are: four of them or five. -/
def ideographNumber? (s : List Char) : Option Nat :=
  let isDigit (c : Char) : Bool := c.isDigit || ('A' ≤ c && c ≤ 'F')
  if (s.length = 4 || s.length = 5) && s.all isDigit then
    some (s.foldl (fun n c => n * 16 + (digitIn? 16 c).getD 0) 0)
  else none

/-- The ranges of the ideographs. -/
def ideographRanges : List (Nat × Nat) := [
  (0x3400, 0x4DBF), (0x4E00, 0x9FFF), (0x20000, 0x2A6DF), (0x2A700, 0x2B738), (0x2B740, 0x2B81D),
  (0x2B820, 0x2CEA1), (0x2CEB0, 0x2EBE0), (0x30000, 0x3134A)]

/-- The ideograph with a name. -/
def ideograph? (name : List Char) : Option Nat := do
  let n ← ideographNumber? (← dropWord? "CJK UNIFIED IDEOGRAPH-".toList name)
  if ideographRanges.any fun r => r.1 ≤ n && n ≤ r.2 then some n else none

/-- The sounds that a syllable of Hangul can begin with. -/
def leadSounds : List String := ["G", "GG", "N", "D", "DD", "R", "M", "B", "BB", "S", "SS", "", "J",
  "JJ", "C", "K", "T", "P", "H"]

/-- The vowels of Hangul. -/
def vowelSounds : List String := ["A", "AE", "YA", "YAE", "EO", "E", "YEO", "YE", "O", "WA", "WAE",
  "OE", "YO", "U", "WEO", "WE", "WI", "YU", "EU", "YI", "I"]

/-- The sounds that a syllable of Hangul can end with. -/
def tailSounds : List String := ["", "G", "GG", "GS", "N", "NJ", "NH", "D", "L", "LG", "LM", "LB",
  "LS", "LT", "LP", "LH", "M", "B", "BS", "S", "SS", "NG", "J", "C", "K", "T", "P", "H"]

/-- The longest sound that a name goes on with, its place among some sounds, and the rest. -/
def takeSound (sounds : List String) (s : List Char) : Option (Nat × List Char) :=
  let found := sounds.zipIdx.filterMap fun (sound, i) =>
    (dropWord? sound.toList s).map fun r => (i, r)
  found.foldl (fun best f => match best with
    | some b => if f.2.length < b.2.length then some f else best
    | none => some f) none

/-- The syllable of Hangul with a name. -/
def syllable? (name : List Char) : Option Nat := do
  let (lead, s) ← takeSound leadSounds (← dropWord? "HANGUL SYLLABLE ".toList name)
  let (vowel, s) ← takeSound vowelSounds s
  let (tail, s) ← takeSound tailSounds s
  if s.isEmpty then some (0xAC00 + (lead * 21 + vowel) * 28 + tail) else none

/-! ## All names -/

/-- The character with a name. -/
def namedChar? (name : List Char) : Option Nat :=
  let capitals := name.map Char.toUpper
  ideograph? name <|> syllable? name
    <|> (furtherNames.find? fun f => f.2.contains (.ofList capitals)).map (·.1)
    <|> nameBlocks.findSome? fun b => namedIn capitals b.1 (splitOn ';' (String.join b.2).toList)

end OpenApiClient.Text
