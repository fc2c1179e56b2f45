import SyscallFilter.Unicode.RangeTable

/-! # Break classes of graphemes, words and sentences -/

namespace SyscallFilter.Unicode

namespace Segmentation

/-- The values of Grapheme_Cluster_Break; number zero is for code points with none of them. -/
def graphemeBreakNames : List (List String) :=
  [["CR"], ["Control", "CN"], ["Extend", "EX"], ["L"], ["LF"], ["LV"], ["LVT"],
   ["Prepend", "PP"], ["Regional_Indicator", "RI"], ["SpacingMark", "SM"], ["T"], ["V"], ["ZWJ"]]

def graphemeBreakPartition : String :=
  String.join
    ["CJFACBBACRA2+C1AAMCAAiRD3PA8SDGA8GD1MAADAAADBAADBAADAA1XIFAJDKAACAA1NDUAPDAA3EDGIAAADFAB",
     "DBAADDA1AIAAADAAzDwA2wDKA1ZDIAIDAAXDDAADIAADCAADEA1KDCA1TIBAEDIA1JDXIAD-KAA1VDAKADAAAKCD",
     "HKDDAKBAADGAJDBAyDAKBA1XDAAADAKBDDABKBABKBDAAIDAAJDBAZDAABDBKAA1XDAAAKCDBADDBABDCACDAAzD",
     "BACDAAKDBKAA1XDAAAKCDEAADBKAAAKBDAATDBAVDFAADAKBA1XDAAADBKADDABKBABKBDAAGDCAJDBAzDAA1wDA",
     "KADAKBACKCAAKCDAAIDAA1HDAKCDAA1WDAAADCKDAADCAADDAGDBAKDBAyDAKBA1XDAAAKADBKADAKBAADCAADDA",
     "GDBAKDBAOKAALDBKBA1WDBAADAKBDDAAKCAAKCDAIAAHDAAJDBAyDAKBA2FDAADDAKBDCAADAAAKGDAARKBA1yDA",
     "AAKADGALDHA3BDAAAKADIAKDGA2IDBAwDAAADAAADAADKBA1QDNKADEAADBAEDKAAD1DAIDAA3FDDKADFAADBKBD",
     "BAWKBDBADDCAPDDAMDAAAKADBAFDAAODAA3BE2-M2HL2XAayDCAtRDDAxDCAyDBAzDBA1-DBKADGKHDAKBDKAIDA",
     "A1MDCCADAA3UDBA1BDAA3VDCKDDBKCADKBDAKFDCA6wDBKBDAA1YKADAKADGAADAAADAABDHKFDJABDAA1PD+A1Q",
     "DDKAA1ODJKDDCA1FDIALDBKAAzKADDKBDFA1XDAKADBKCDAKADEA1PKHDHKBDBA4XDCAADMKADGADDAAFDAABKAD",
     "BA6FD1-AgKCADANACBAXCGA1QCPA2-D1AA2vzDCA4MDAA2-D-AhJDFA3IDBAteTDDAADJA-DBA2PDBA8PDAACDAA",
     "DDAAWKBDBKAADDAA2SKBA1RKPDBAZDRAMDAA1FDHAYDKKADAALEyACDCKAA1ODAKBDDKBDBKBDAA1DDAA2CDFKBD",
     "BKBDBALDAAHDAKAA1NDAA1SDAAADCABDBAEDBAADAA1IKADBKBAEKADAA7LKBDAKBDAKBAAKADAARGAHwGAHwGAH",
     "wGAHwGAHwGAHwGAHwGAHwGAHwGAHwGAHwGAHwGAHwGAHwGAHwGAHwGAHwGAHwGAHwGAHwGAHwGAHwGAHwGAHwGAH",
     "wGAHwGAHwGAHwGAHwGAHwGAHwGAHwGAHwGAHwGAHwGAHwGAHwGAHwGAHwGAHwGAHwGAHwGAHwGAHwGAHwGAHwGAH",
     "wGAHwGAHwGAHwGAHwGAHwGAHwGAHwGAHwGAHwGAHwGAHwGAHwGAHwGAHwGAHwGAHwGAHwGAHwGAHwGAHwGAHwGAH",
     "wGAHwGAHwGAHwGAHwGAHwGAHwGAHwGAHwGAHwGAHwGAHwGAHwGAHwGAHwGAHwGAHwGAHwGAHwGAHwGAHwGAHwGAH",
     "wGAHwGAHwGAHwGAHwGAHwGAHwGAHwGAHwGAHwGAHwGAHwGAHwGAHwGAHwGAHwGAHwGAHwGAHwGAHwGAHwGAHwGAH",
     "wGAHwGAHwGAHwGAHwGAHwGAHwGAHwGAHwGAHwGAHwGAHwGAHwGAHwGAHwGAHwGAHwGAHwGAHwGAHwGAHwGAHwGAH",
     "wGAHwGAHwGAHwGAHwGAHwGAHwGAHwGAHwGAHwGAHwGAHwGAHwGAHwGAHwGAHwGAHwGAHwGAHwGAHwGAHwGAHwGAH",
     "wGAHwGAHwGAHwGAHwGAHwGAHwGAHwGAHwGAHwGAHwGAHwGAHwGAHwGAHwGAHwGAHwGAHwGAHwGAHwGAHwGAHwGAH",
     "wGAHwGAHwGAHwGAHwGAHwGAHwGAHwGAHwGAHwGAHwGAHwGAHwGAHwGAHwGAHwGAHwGAHwGAHwGAHwGAHwGAHwGAH",
     "wGAHwGAHwGAHwGAHwGAHwGAHwGAHwGAHwGAHwGAHwGAHwGAHwGAHwGAHwGAHwGAHwGAHwGAHwGAHwGAHwGAHwGAH",
     "wGAHwGAHwGAHwGAHwGAHwGAHwGAHwGAHwGAHwGAHwGAHwGAHwGAHwGAHwGAHwGAHwGAHwGAHwGAHwGAHwGAHwGAH",
     "wGAHwGAHwGAHwGAHwGAHwGAHwGAHwGAHwGAHwGAHwGAHwGAHwGAHwGAHwGAHwGAHwGAHwGAHwGAHwGAHwGAHwGAH",
     "wGAHwGAHwGAHwGAHwGAHwGAHwGAHwGAHwGAHwGAHwGAHwGAHwGAHwGAHwGAHwGAHwGAHwGAHwGAHwGAHwGAHwGAH",
     "wGAHwGAHwGAHwGAHwGAHwGAHwGAHwGAHwGAHwGAHwGAHwGAHwGAHwGAHwGAHwGAHwGAHwGAHwGAHwGAHwGAHwGAH",
     "wGAHwGAHwGAHwGAHwGAHwGAHwGAHwGAHwGAHwGAHwGAHwGAHwGAHwGAHwGAHwGAHwGAHwGAHwGAHwGAHwGAHwGAH",
     "wGAHwGAHwGAHwGAHwGAHwGAHwGAHwGAHwGAHwGAHwGAHwGAHwGAHwGAHwGAHwGAHwGAHwGAHwGAHwGAHwGAHwGAH",
     "wGAHwGAHwGAHwGAHwGAHwGAHwGAHwGAHwGAHwGAHwGAHwGAHwGAHwGAHwGAHwGAHwGAHwGAHwGAHwGAHwGAHwGAH",
     "wGAHwGAHwGAHwGAHwGAHwGAHwGAHwGAHwGAHwGAHwGAHwGAHwGAHwGAHwGAHwGAHwGAHwGAHwGAHwGAHwGAHwGAH",
     "wALMWADL1QA8pBDAAnADPAPDPA6OCAA4zDBA2PCLAgADAA7BDAA4UDEA1kFDCAADBAEDDA1HDCADDAA5EDBAhyDD",
     "A2ADEA9yDBA2ODDA2FDKA1QDDA3ZKADAKAA1UDOA1IDAABDBAJDCKAA1MKCDDKBDBABIAADDAAJIAA1RDCA1DDEK",
     "ADHAPKBA1LDAALDBKAA1PKCDIKADAAAIBAEDDAAKADAA2xKCDCKBDDAFDAABDAA4yDAKCDHAUDBKBA1WDBAADAKA",
     "DAKDABKBABKBDAAIDAAJKBABDGACDEA2CDAKBDFAADAABDAAADCKAAAKBDCIADAANDBA2RKCDHKBDCKADAAWDAA2",
     "QDAKBDFKADAKBDAKADBKADBA7KDAKBDDABKDDBKADBAwDBA2RKCDHKBDAKADBA3JDAKADAKBDHA3EDAKADAABDDK",
     "ADEA7-KCDIKADBA7UDAKEAAKBABDDIAKAIAKADAA4MKCDDABDBKDDAACKAAxDJA1HDFKAIADDAHDAAIDFKBDCA1H",
     "IFDMKADBAcUKADGAADFKADAA2RDVAAKADGKADBKADBA3ZDFACDAAADBAADGIADAA2BKEAADBAAKBDAKADAAawDBK",
     "BAIDBIAKAA1PKBDEACKBDCAWDAA56UCPDAAFDOAb6HDLKCDCA2d-DEA1wDGAhLMAACMDAfDDAAAK1WAGDDA2QDAA",
     "KDBAj5KDBAACDA4ixD1NABDWAgzDEACDFCHDHABDGAzDDA4TDCA1twD1WADD1RAHDAANDAAVDEAADOA1aPDGAADQ",
     "ABDGAADBAADEA3DDAA4-DGAbWDAA1yDDAfxDDA7zDBAm-DGA3MDGA24wJZAfwDEAo2v-C-D2-C3-D7PC3gPA5rv-"]

/-- The values of Word_Break; number zero is for code points with none of them. -/
def wordBreakNames : List (List String) :=
  [["ALetter", "LE"], ["CR"], ["Double_Quote", "DQ"], ["Extend"], ["ExtendNumLet", "EX"],
   ["Format", "FO"], ["Hebrew_Letter", "HL"], ["Katakana", "KA"], ["LF"], ["MidLetter", "ML"],
   ["MidNum", "MN"], ["MidNumLet", "MB"], ["Newline", "NL"], ["Numeric", "NU"],
   ["Regional_Indicator", "RI"], ["Single_Quote", "SQ"], ["WSegSpace"], ["ZWJ"]]

def wordBreakPartition : String :=
  String.join
    ["AJJANBCAARRAAADAADQAADLAAAMAAAOJKALAAEBZADFAAABZAJNAA1DBAABGAAGBAAAKAABBAAEBWAAB+AABe-AF",
     "B1BE3PBEAABBABBDLABAAFBAKABCAABAAABTAAB2SAAB4KAAEGB5FAAB1FABBDAABAKAB1ILABAAFE1MAAEAAAEB",
     "AAEBAAEAAHHwADHDBAKAAKOFAFLBABEKAAGAACB1KEUOJAAOALAAABBEAB3CAABAEGOAAAEFBBEBAAEDBBOJBCAB",
     "BAAOBBEABzEwABB2YEKBAANOJB1AEIBBABLAAABAABEAABBVEDBAEIBAECBAEEARBYECADBKAEBXAABFAAOBAEEI",
     "B1JEXOAE1AB1VECBAERBAEGBJEBABOJAABPECAABHABBBABBVAABGAABAACBDABEABAEGABEBABECBAAHEAADBBA",
     "ABCEBABOJBBAJBAAAEAABECAABFADBBABBVAABGAABBAABBAABBABEAAAEEADEBABECACEAAGBDAABAAGOJEBBCE",
     "AAKECAABIAABCAABVAABGAABBAABEABEABAEHAAECAAECABBAAOBBEBABOJAIBAEFAAECAABHABBBABBVAABGAAB",
     "BAABEABEABAEGABEBABECAGECADBBAABCEBABOJAABAAPEABAAABFACBCAABDACBBAABAAABBACBBACBCACBLADE",
     "EACECAAEDABBAAFEAANOJAPEEBHAABCAABWAABPABEABAEGAAECAAEDAGEBAABCABBAABBBEBABOJAPBAECAABHA",
     "ABCAABWAABJAABEABEABAEGAAECAAEDAGEBAFBBAABBEBABOJAABBEAALEDBIAABCAAB1IEBBAEGAAECAAEDBAAE",
     "BCEAAGBCEBABOJAJBFAAECAABRACBXAABIAABAABBGACEAADEFAAEAAAEHAFOJABEBA1yEAABEGALEHAAOJA2WEA",
     "ABEIAKEGAAOJA1FBAAWEBAFOJAKEAAAEAAAEAADEBBHAAB1DADETAAEBBEEKAAE1DAIEAA3DETAAOJALEDADECAA",
     "ECABEGACEDAMELAAEAOJEDABB1FAABAAEBAABB1KAABaMAABDABBGAABAAABDABB1IAABDABB1AAABDABBGAABAA",
     "ABDABBOAAB1YAABDABB2CABECA-BPAPB2VABBFACBjLABBQRABZAEB2KACBKAGBREDAIBSECAKBREBALBMAABCAA",
     "EBA1-E-AIEAABOJA1AECGAEAOJAFB2YAGBEEBB1BEABAAEB2FAJB+AAELADELAJOJA3-OKA1EBWEEA1YEJAAEyAB",
     "EAOJAFOJAVE+A1QEEB1OEQBHACOJAQEIALECBzEMBBOJB1LENALB1DETAHOJACBCOJB1DABBKAEB1KABBCAPECAA",
     "EUBDEABFEABBECBAAEB5-E1-B8VABBFABB1FABBFABBHAABAAABAAABAAAB+ABB1UAABGAABAACBCAABGACBDABB",
     "FADBMAEBCAABGACRGAARCAAEASAGBAHMBAJMAABKANBGEFAAOFBACLAAOFAAJRAGEAAGJAABAAMBAAPBMA1SE1AA",
     "QBAADBAABBJAABAACBEAFBAAABAAABAAABDAABKABBDAEBEADBAAQB1IApMB1TA1oVB7EAFBDECBBALB1FAABAAE",
     "BAABB1XAGBAAOEABWAIBGAABGAABGAABGAABGAABGAABGAABGAAE-A1OBAAePRAADBAA1DEFAAIEAEBBA2xEBIBA",
     "CI2wAAIDAEB1KAAB2zAQB-A1PIPA6PI1OAAI2XAr5HB14MA2CB1NABB8MACBPOJBBATB1OEDAAEJAAB+EBB2PEBA",
     "VB6FABBBAABAAABHAUBPEABCEABDEABWEEADEAASB1TALEBB1RERAJOJAFERBFACBAAABBEAOJBxEHABBWEMALBy",
     "ACEDB1OENANBAOJAKEAAJOJAFB1IENAIBCEABHEBABOJA1AECA1REAAAECABEBAEEBAAEAAzBKEEABBCEBAJBFAB",
     "BFABBFAIBGAABGAAB1ZAFB3SEHAAEBABOJAFBatDALBWADB1QA8oDBGALBEAEHAEAHJAAHMAAHEAAHAAAHBAAHBA",
     "AHJB3BA1ABbKARB1-ABB1VA1HBLADEPACKAALEPACFBAXFCLAAAMAAALAKAAZBEAAB4GABGAAGMAADLAAAMAAAOJ",
     "KALAAEBZADFAAABZAKI1XEBB+ACBFABBFABBFABBCAxGCADBLAABZAABSAABBAABOABBNA1BB3wA2EB1UA4HEAA4",
     "BByACB1QAOEAA+B-AMBzAEB1FEEAEBzABB1DADBHAABEA1JB4zABOJAFB1DADB1DADB1HAHB1TALBKAABOAABGAA",
     "BBAABKAABOAABGAABBACB1TALB9WAIBVAJBHAXBFAAB1JAABIA2EBFABBAAAB1LAABBACBAABBWAJBWAIB+A2ABS",
     "AABBAJBVAJBZA2FB1XAFBBA1-BAECAAEBAEEDBDAABCAAByABECADEAA-ByACByA1CBHAABxEBAYB1VAJBVAJBSA",
     "MBRA3NB2IA1WB1SAMB1SAMB1DEDAHOJAFOJBxACEEAABWA7ZB1JAAEBACBBAPBCA1WEDByAJBAAHBVEKA+BREDA1",
     "JBUAwBWAIECB1UEOA+OJEABBEBBAAIEDB1MEKABOAADEAAJOAABBYAGOJAFECB1DENAAOJADBAEBBAAHB1CEAABB",
     "AAIECB1PENBDADEDAAEBOJBAAABAA1CBRAABYELAFEABBEAA1zBGAABAAABDAABOAABJAGB1OELAEOJAFEDAABHA",
     "BBBABBVAABGAABBAABEAAEBBAEGABEBABECABBAAFEAAEBEEBABEGACEEAKBJAABAABBAAAB1FAABAEIAAEAABEA",
     "AAEDAAEEBAEABAAMEBAyB1UERBDAEOJADEABCAzB1PETBBAABAAHOJA5FB1OEGABEIAWBDEBA1BB1PEQACBAAKOJ",
     "A1FB1KEMBAAGOJAFOTA1YEOADOJA6FB1LEOA3EB1-OJAUBHABBAABBHAABBAABXEFAAEBABEDBAEABAEBALOJA2F",
     "BHABB1GEGABEGBAAABAEAAwBAEJB1HEGBAEDAHEAAHBAEKB1NEPACBAARB2IA6GB1AAOOJAFBIAAB1EEHAAEHBAA",
     "OOJAXBzABEVAAENA2IBGAABBAAB1FEFACEAAAEBAAEGBAEAAHOJAFBFAABBAAB-EEAAEBAAEEBAAGOJA9VBSEDAI",
     "EBBAEABMAAB1BEGACEEAMOJEAA2UBAA2OBsZA3FB3OAQB6DA2iLB3AAOB11PGPEABFEOAJB3swAEBiGA6lYBzERO",
     "JA1mFBhYAGB+AAOJAFB2OAAOJAFBzABEEAKB1PEGAIBDALOJAIBUAEBSAdPB1MACOJA6FB1-A3-B2KADEABAE1WA",
     "GEDBMA1-BBAABAEAAKEBAfvzIDAAIGAAIBAAIAA8+ICA1RIAANIDA2kXB3KAEBMACBIAGBJACEBAAGDA42LOJAgF",
     "E1NABEWAgzEEACEFGHEHABEGAzEDA4TECAdwB2UAAB2GAABBABBAABBBABBDAABLAABAAABGAAB2AAABDABBHAAB",
     "GAABxAABDAABEAABAACBGAABaTABBYAABYAAB+AABYAAB+AABYAAB+AABYAAB+AABYAABHABO1RAf-E1WADE1RAH",
     "EAANEAAVEEAAEOA12PB+AFBFA6UEGAAEQABEGAAEBAAEEAEB1zA1AEAA3PB1MACEGBGABOJADBAAaABzEAAQB1LE",
     "DOJAeVBxEDOJA6VBzEBBAOJAfEBGAABDAABBAABOAAB6EAKEGA1IB2DEGBAADOJA15FBDAABwAABBAABAABBAAAB",
     "JAABDAABAAABAAFBAADBAAABAAABAAABCAABBAABAABBAAABAAABAAABAAABAAABBAABAABBDAABGAABDAABDAAB",
     "AAABJAABQAEBCAABEAABQAjTBZAFBZAFBZA2xPZAfwEEA1vPOJAo10GGAAzE2-A3-E7PA5vgP"]

/-- The values of Sentence_Break; number zero is for code points with none of them. -/
def sentenceBreakNames : List (List String) :=
  [["ATerm", "AT"], ["CR"], ["Close", "CL"], ["Extend", "EX"], ["Format", "FO"], ["LF"],
   ["Lower", "LO"], ["Numeric", "NU"], ["OLetter", "LE"], ["SContinue", "SC"], ["STerm", "ST"],
   ["Sep", "SE"], ["Sp", "SP"], ["Upper", "UP"]]

def sentenceBreakPartition : String :=
  String.join
    ["AINAGANBCAARNALADAADDCABKBBAAAIJKBACLAAAOZDAAADAACHZDAAADAAGMAAZNAAIHADAAAFAAGHAADHADAAD",
     "OWAAOGHXAAHHOAHAOAHAOAHAOAHAOAHAOAHAOAHAOAHAOAHAOAHAOAHAOAHAOAHAOAHAOAHAOAHAOAHAOAHAOAHA",
     "OAHAOAHAOAHAOAHAOAHAOAHAOAHAOAHAOAHBOAHAOAHAOAHAOAHAOAHAOAHAOAHAOAHBOAHAOAHAOAHAOAHAOAHA",
     "OAHAOAHAOAHAOAHAOAHAOAHAOAHAOAHAOAHAOAHAOAHAOAHAOAHAOAHAOAHAOAHAOAHAOAHAOBHAOAHAOAHCOBHA",
     "OAHAOBHAOCHBODHAOBHAOCHCOBHAOBHAOAHAOAHAOBHAOAHBOAHAOBHAOCHAOAHAOBHBJAOAHCJDOBHAOBHAOBHA",
     "OAHAOAHAOAHAOAHAOAHAOAHAOAHAOAHBOAHAOAHAOAHAOAHAOAHAOAHAOAHAOAHAOAHBOBHAOAHAOCHAOAHAOAHA",
     "OAHAOAHAOAHAOAHAOAHAOAHAOAHAOAHAOAHAOAHAOAHAOAHAOAHAOAHAOAHAOAHAOAHAOAHAOAHAOAHAOAHAOAHA",
     "OAHAOAHAOAHAOAHAOAHGOBHAOBHBOAHAODHAOAHAOAHAOAHAOAH2EJAH1DJGHBADJLANHEAGJAAAJAAQE3POAHAO",
     "AHAJAAAOAHAABHDKAOAAFOAAAOCAAOAAAOBHAOQAAOIH1COAHBOCHCOAHAOAHAOAHAOAHAOAHAOAHAOAHAOAHAOA",
     "HAOAHAOAHAOAHEOAHAAAOAHAOBHBO1SH1POAHAOAHAOAHAOAHAOAHAOAHAOAHAOAHAOAHAOAHAOAHAOAHAOAHAOA",
     "HAOAHAOAHAOAHAAAEGOAHAOAHAOAHAOAHAOAHAOAHAOAHAOAHAOAHAOAHAOAHAOAHAOAHAOAHAOAHAOAHAOAHAOA",
     "HAOAHAOAHAOAHAOAHAOAHAOAHAOAHAOAHAOAHAOBHAOAHAOAHAOAHAOAHAOAHAOAHBOAHAOAHAOAHAOAHAOAHAOA",
     "HAOAHAOAHAOAHAOAHAOAHAOAHAOAHAOAHAOAHAOAHAOAHAOAHAOAHAOAHAOAHAOAHAOAHAOAHAOAHAOAHAOAHAOA",
     "HAOAHAOAHAOAHAOAHAOAHAOAHAOAHAOAHAOAHAOAHAOAHAOAHAOAHAOAHAOAHAOAHAOAHAOAHAOAHAOAHAAAO1FA",
     "BJAACKAABH1ILAAGE1MAAEAAAEBAAEBAAEAAHJwADJEALIFAFKBABEKAAFALCJ1KEUIJAAIBAAJBEAJ3CLAJAEGI",
     "AAAEFJBEBAAEDJBIJJCABJALCALFAJAEAJzEwABJ2YEKJAANIJJ1AEIJBABKALAJAABEAABJVEDJAEIJAECJAEEA",
     "ILAAALAACLBAAJYECADJKAEJXAAJFAAIBAEEIJ1JEXIAE1AJ1VECJAERJAEGJJEBLBIJAAJPECAAJHABJBABJVAA",
     "JGAAJAACJDABEAJAEGABEBABECJAAHEAADJBAAJCEBABIJJBAJJAAAEAABECAAJFADJBABJVAAJGAAJBAAJBAAJB",
     "ABEAAAEEADEBABECACEAAGJDAAJAAGIJEBJCEAAKECAAJIAAJCAAJVAAJGAAJBAAJEABEAJAEHAAECAAECABJAAO",
     "JBEBABIJAIJAEFAAECAAJHABJBABJVAAJGAAJBAAJEABEAJAEGABEBABECAGECADJBAAJCEBABIJAAJAAPEAJAAA",
     "JFACJCAAJDACJBAAJAAAJBACJBACJCACJLADEEACECAAEDABJAAFEAANIJAPEEJHAAJCAAJWAAJPABEAJAEGAAEC",
     "AAEDAGEBAAJCABJAABJBEBABIJAPJAECAAJHAAJCAAJWAAJJAAJEABEAJAEGAAECAAEDAGEBAFJBAAJBEBABIJAA",
     "JBEAALEDJIAAJCAAJ1IEBJAEGAAECAAEDJAAEJCEAAGJCEBABIJAJJFAAECAAJRACJXAAJIAAJAABJGACEAADEFA",
     "AEAAAEHAFIJABEBAMJ1PEAJBEGAEJGEHAAIJA1GJBAAJAAAJEAAJXAAJAAAJJEAJBEIJAABJEAAJAAAEGAAIJABJ",
     "DA-JAAWEBAFIJAKEAAAEAAAEADDEBJHAAJ1DADETAAEBJEEKAAE1DAIEAA1YJ1KETJAIJLBADJFEDJDECJAECJBE",
     "GJCEDJMELJAEAIJEDABO1FAAOAAEOAABJ1KAAHAJaLAAJDABJGAAJAAAJDABJ1IAAJDABJ1AAAJDABJGAAJAAAJD",
     "ABJOAAJ1YAAJDABJ2CABECABLAADLBAWJPAPO2VABHFACJjLAALAJQNAJZDBACJ2KACJKAGJREDAIJSECLBAIJRE",
     "BALJMAAJCAAEBALJ1TE-LBAAJAADJAEAABIJAXKALAADKALAAAECFAEAIJAFJ2YAGJEEBJ1BEAJAAEJ2FAJJ+AAE",
     "LADELAHLBIJJzABJEAKJ1LADJZAFIKA1EJWEEADJ1UEJAAEyABEAIJAFIJAMJALDADE+A1QEEJ1OEQJHAALBIJLB",
     "ABLBAKEIAILCECJzEMJBIJJ1LENALJ1DETACLBACIJACJCIJJ1DLBHIOAHAAEJ1KABJCAPECAAEUJDEAJFEAJBEC",
     "JAAEH5-E1-OAHAOAHAOAHAOAHAOAHAOAHAOAHAOAHAOAHAOAHAOAHAOAHAOAHAOAHAOAHAOAHAOAHAOAHAOAHAOA",
     "HAOAHAOAHAOAHAOAHAOAHAOAHAOAHAOAHAOAHAOAHAOAHAOAHAOAHAOAHAOAHAOAHAOAHAOAHAOAHAOAHAOAHAOA",
     "HAOAHAOAHAOAHAOAHAOAHAOAHAOAHAOAHAOAHAOAHAOAHAOAHAOAHAOAHAOAHAOAHAOAHAOAHAOAHAOAHAOAHAOA",
     "HAOAHAOAHAOAHAOAHAOAHAOAHAOAHAOAHAOAHAOAHAOAHIOAHAOAHAOAHAOAHAOAHAOAHAOAHAOAHAOAHAOAHAOA",
     "HAOAHAOAHAOAHAOAHAOAHAOAHAOAHAOAHAOAHAOAHAOAHAOAHAOAHAOAHAOAHAOAHAOAHAOAHAOAHAOAHAOAHAOA",
     "HAOAHAOAHAOAHAOAHAOAHAOAHAOAHAOAHAOAHAOAHAOAHAOAHAOAHAOAHAOAHAOAHIOHHFABOFABHHOHHHOHHFAB",
     "OFABHHAAOAAAOAAAOAAAOAHHOHHNABHHOHHHOHHHOHHEAAHBOEAAHAACHCAAHBOEACHDABHBODADHHOEAEHCAAHB",
     "OEACNKFAEBFBACKBACDHADBAACMBFENAAIDBAALBAGDBLCAUNAFEAAFJAAHAAKDBHAAMDBAAHMA1SE1AAQOAADOA",
     "ABHAOCHBOCHAAAOAACOEAFOAAAOAAAOAAAODAAHAODHAJDHAABHBOBAEOAHDADHAAQOPHPJCOAHAJDAb+DDAyDBA",
     "cKOZHZAjQDFAGDNA2ODBA+DJAcSDVA1+DDA-DBAgBO1PH1POAHAOCHBOAHAOAHAOAHAODHAOAHBOAHHOCHAOAHAO",
     "AHAOAHAOAHAOAHAOAHAOAHAOAHAOAHAOAHAOAHAOAHAOAHAOAHAOAHAOAHAOAHAOAHAOAHAOAHAOAHAOAHAOAHAO",
     "AHAOAHAOAHAOAHAOAHAOAHAOAHAOAHAOAHAOAHAOAHAOAHAOAHAOAHAOAHAOAHAOAHAOAHAOAHAOAHAOAHAOAHAO",
     "AHAOAHAOAHAOAHBAFOAHAOAHAECOAHAAELCADH1FAAHAAEHAABJ1XAGJAAOEAJWAIJGAAJGAAJGAAJGAAJGAAJGA",
     "AJGAAJGAAE-DNANDBABDJADLAJAALLAAEDAAPLBDHAdCNAKALAABJCDJABDHAADCAAJIEFAAJEABJEADJ2VABEBA",
     "BJCAAJ2ZAAJDAEJ1KAAJ2zAQJ-A1PJPAf-J6d-A1-JlkMA2CJ1NAALAJ8MAALBJPIJJBATOAHAOAHAOAHAOAHAOA",
     "HAOAHAOAHAOAHAOAHAOAHAOAHAOAHAOAHAOAHAOAHAOAHAOAHAOAHAOAHAOAHAOAHAOAHAOAHAJAEDAAEJAAJAOA",
     "HAOAHAOAHAOAHAOAHAOAHAOAHAOAHAOAHAOAHAOAHAOAHAOAHAOAHCEBJ2PEBAALAACLAA+JIABOAHAOAHAOAHAO",
     "AHAOAHAOAHAOAHCOAHAOAHAOAHAOAHAOAHAOAHAOAHAOAHAOAHAOAHAOAHAOAHAOAHAOAHAOAHAOAHAOAHAOAHAO",
     "AHAOAHAOAHAOAHAOAHAOAHAOAHAOAHAOAHAOAHAOAHAOAHAOAHJOAHAOAHAOBHAOAHAOAHAOAHAOAHAJAABOAHAO",
     "AHAJAOAHAOAHCOAHAOAHAOAHAOAHAOAHAOAHAOAHAOAHAOAHAOAHAOEHAOEHAOAHAOAHAOAHAOAHAOAHAOAHAOAH",
     "AODHAOAHAOBHAABOAHAAAHAAAHAOAHAOAHAOAHAOAAUHCOAHAJAHCJGEAJCEAJDEAJWEEADEAASJ1TABLBAHEBJ1",
     "RERAHLBIJAFERJFACJAAAJBEAIJJxEHAALAJWEMALJyACEDJ1OENAGLBAEJAIJAFJEEAJJIJJEAAJ1IENAIJCEAJ",
     "HEBABIJACLCJWACJAECJ1REAJAECJBEBJEEBJAEAJAAXJCABJKEELBJCEBAJJFABJFABJFAIJGAAJGAAH1KAAHNA",
     "FH2PJ1CEHLAEBABIJAFJatDALJWADJ1QA88DJbNABJ3JA1FHGALHEAEJAEAJJAAJMAAJEAAJAAAJBAAJBAAJ3LA1",
     "AJbKDBAPJ1-ABJ1VA1HJLADEPKBLAKBLBDBAGEPAAKBABDPABDBAGKBBAAAKBLBKADFADKAALJEAAJ4GABFAAALA",
     "AFDBABKBBAAAIJKBACLAAAOZDAAADAACHZDAAADAAADBLADBKAAAJ1XEBJ+ACJFABJFABJFABJCAxFCADJLAAJZA",
     "AJSAAJBAAJOABJNA1BJ3wA2EJ1UA4HEAA4BJyACJ1QAOEAA+J-AMJzAEJ1FEEAEJzABJ1DADJHAAJEA1JO1HH1HJ",
     "2NABIJAFO1DADH1DADJ1HAHJ1TALOKAAOOAAOGAAOBAAHKAAHOAAHGAAHBACJ1TALJ9WAIJVAJJHAXHAJBHCAAH1",
     "JAAHIA2EJFABJAAAJ1LAAJBACJAABJWAJJWAIJ+A2AJSAAJBAJJVAJJZA2FJ1XAFJBA1-JAECAAEBAEEDJDAAJCA",
     "AJyABECADEAAVLBAHJyACJyA1CJHAAJxEBAYJ1VAJJVAJJSAMJRA3NJ2IA1WO1SAMH1SAMJ1DEDAHIJAFIJJFOVA",
     "CEEAAJAHVA7ZJ1JAAEBACJBAPJCA1WEDJyAJJAAHJVEKADLEAVJREDLDA1FJUAwJWAIECJ1UEOLBAyIJEAJBEBJA",
     "AIEDJ1MEKABIALDEAAJIAABJYAGIJAFECJ1DENAAIJAALCJAEBJAAHJ1CEAABJAAIECJ1PENJDLBABEDLAEBIJJA",
     "AAJAAALBA-JRAAJYELLBAALBAAEAJBEAA1zJGAAJAAAJDAAJOAAJJLAAFJ1OELAEIJAFEDAAJHABJBABJVAAJGAA",
     "JBAAJEAAEBJAEGABEBABECABJAAFEAAEJEEBABEGACEEAKJJAAJAABJAAAJ1FAAJAEIAAEAABEAAAEDAAEEJAEAJ",
     "ALBAKEBAyJ1UERJDLBACIJADEAJCAzJ1PETJBAAJAAHIJA5FJ1OEGABEIAALBAELOJDEBA1BJ1PEQLBAAJAAKIJA",
     "1FJ1KEMJAAGIJAFITAxJwABEOADIJABLCAAJGA5YJ1LEOA3EO-H-IJAUJHABJAABJHAAJBAAJXEFAAEBABEDJAEA",
     "JAEBLAAALAAIIJA2FJHABJ1GEGABEGJAAAJAEAAwJAEJJ1HEGJAEDACLBACEAAHJAEKJ1NEPAALBJAARJ2IA6GJ1",
     "AAOIJAFJIAAJ1EEHAAEHJALBAMIJAXJzABEVAAENA2IJGAAJBAAJ1FEFACEAAAEBAAEGJAEAAHIJAFJFAAJBAAJ-",
     "EEAAEBAAEEJAAGIJA9VJSEDLBAGEBJAEAJMAAJ1BEGACEELBAKIJEAA2UJAA2OJsZA3FJ3OAQJ6DA2iLJ3AAOJ11",
     "PFPEAJFEOAJJ3swAEJiGA6lYJzERIJA1mFJhYAGJ+AAIJADLBJ2OAAIJAFJzABEELAAJJ1PEGLBAGJDLAAKIJAIJ",
     "UAEJSAdPJ1MAALBIJA6FO-H-AXLAA3GJ2KADEAJAE1WAGEDJMA1-JBAAJAEAAKEBANJ5vXAHJ16VA1IJJA8nGJDA",
     "AJGAAJBAAJ9CAOJAAyJCABJAANJDAHJcLA28DJ3KAEJMACJIAGJJACEBLAFDA42LIJAgFE1NABEWAgzEEACEFFHE",
     "HABEGAzEDA4TECAdwOZHZOZHGAAHROZHZOAAAOBABOAABOBABODAAOHHDAAHAAAHGAAHKOZHZOBAAODABOHAAOGA",
     "AHZOBAAODAAOEAAOAACOGAAHZOZHZOZHZOZHZOZHZOZHZOZHxABOYAAHYAAHFOYAAHYAAHFOYAAHYAAHFOYAAHYA",
     "AHFOYAAHYAAHFOAHAABI1RAf-E1WADE1RAHEAANEAACLAAREEAAEOA12PHJJAHTAFHFA6UEGAAEQABEGAAEBAAEE",
     "AEH1zA1AEAA3PJ1MACEGJGABIJADJAAaAJzEAAQJ1LEDIJAeVJxEDIJA6VJzEBJAIJAfEJGAAJDAAJBAAJOAAJ6E",
     "AKEGA1IO1BH1BEGJAADIJA15FJDAAJwAAJBAAJAABJAAAJJAAJDAAJAAAJAAFJAADJAAAJAAAJAAAJCAAJBAAJAA",
     "BJAAAJAAAJAAAJAAAJAAAJBAAJAABJDAAJGAAJDAAJDAAJAAAJJAAJQAEJCAAJEAAJQAjTOZAFOZAFOZA17LDCA1",
     "bWIJA10FJ19m-A-J41ZAFJ6zABJ5kBANJ79QAOJjNA2dBJgzA1fBJ4qKAEJ42-Aln2QFAAzE2-A3-E7PA5vgP"]

/-- The code points of the value named `normalized` in a partition with these names. -/
def find? (names : List (List String)) (partition normalized : String) : Option RangeTable :=
  (names.findIdx? fun spellings => spellings.any (sameName · normalized)).map fun i =>
    RangeTable.ofPartition partition (· == i + 1)

end Segmentation

end SyscallFilter.Unicode
