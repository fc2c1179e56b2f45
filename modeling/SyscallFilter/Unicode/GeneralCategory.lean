import SyscallFilter.Unicode.RangeTable

/-! # General categories -/

namespace SyscallFilter.Unicode

namespace GeneralCategory

/-- The categories of single code points. A category's place in this list is its number. -/
def names : List (String × String) :=
  [("Cc", "Control"), ("Cf", "Format"), ("Cn", "Unassigned"), ("Co", "Private_Use"),
   ("Ll", "Lowercase_Letter"), ("Lm", "Modifier_Letter"), ("Lo", "Other_Letter"),
   ("Lt", "Titlecase_Letter"), ("Lu", "Uppercase_Letter"), ("Mc", "Spacing_Mark"),
   ("Me", "Enclosing_Mark"), ("Mn", "Nonspacing_Mark"), ("Nd", "Decimal_Number"),
   ("Nl", "Letter_Number"), ("No", "Other_Number"), ("Pc", "Connector_Punctuation"),
   ("Pd", "Dash_Punctuation"), ("Pe", "Close_Punctuation"), ("Pf", "Final_Punctuation"),
   ("Pi", "Initial_Punctuation"), ("Po", "Other_Punctuation"), ("Ps", "Open_Punctuation"),
   ("Sc", "Currency_Symbol"), ("Sk", "Modifier_Symbol"), ("Sm", "Math_Symbol"),
   ("So", "Other_Symbol"), ("Zl", "Line_Separator"), ("Zp", "Paragraph_Separator"),
   ("Zs", "Space_Separator")]

/-- Further spellings and groups: each is the union of the categories it lists. -/
def groups : List (String × List String) :=
  [("Cntrl", ["Cc"]), ("Digit", ["Nd"]),
   ("C", ["Cc", "Cf", "Cn", "Co"]), ("Other", ["Cc", "Cf", "Cn", "Co"]),
   ("LC", ["Ll", "Lt", "Lu"]), ("Cased_Letter", ["Ll", "Lt", "Lu"]),
   ("L", ["Ll", "Lm", "Lo", "Lt", "Lu"]), ("Letter", ["Ll", "Lm", "Lo", "Lt", "Lu"]),
   ("M", ["Mc", "Me", "Mn"]), ("Mark", ["Mc", "Me", "Mn"]), ("Combining_Mark", ["Mc", "Me", "Mn"]),
   ("N", ["Nd", "Nl", "No"]), ("Number", ["Nd", "Nl", "No"]),
   ("P", ["Pc", "Pd", "Pe", "Pf", "Pi", "Po", "Ps"]),
   ("Punct", ["Pc", "Pd", "Pe", "Pf", "Pi", "Po", "Ps"]),
   ("Punctuation", ["Pc", "Pd", "Pe", "Pf", "Pi", "Po", "Ps"]),
   ("S", ["Sc", "Sk", "Sm", "So"]), ("Symbol", ["Sc", "Sk", "Sm", "So"]),
   ("Z", ["Zl", "Zp", "Zs"]), ("Separator", ["Zl", "Zp", "Zs"])]

/-- The category of every code point, as a partition. -/
def partition : String :=
  String.join
    ["A-yAUCWAUCVARAUAYAUAQAUBMJUBYCUBIZVAUARAXAPAXAEZVAYARAYAA1AyAUAWDZAUAXAZAGATAYABAZAXAZAY",
     "AOBXAEAUBXAOAGASAOCUAIWYAIGEXYAEHIAEAIAEAIAEAIAEAIAEAIAEAIAEAIAEAIAEAIAEAIAEAIAEAIAEAIAE",
     "AIAEAIAEAIAEAIAEAIAEAIAEAIAEAIAEAIAEAIAEAIAEAIAEAIAEAIAEBIAEAIAEAIAEAIAEAIAEAIAEAIAEAIAE",
     "BIAEAIAEAIAEAIAEAIAEAIAEAIAEAIAEAIAEAIAEAIAEAIAEAIAEAIAEAIAEAIAEAIAEAIAEAIAEAIAEAIAEAIAE",
     "AIAEAIBEAIAEAIAECIBEAIAEAIBEAICEBIDEAIBEAICECIBEAIBEAIAEAIAEAIBEAIAEBIAEAIBEAICEAIAEAIBE",
     "BGAIAECGDIAHAEAIAHAEAIAHAEAIAEAIAEAIAEAIAEAIAEAIAEAIAEAIAEBIAEAIAEAIAEAIAEAIAEAIAEAIAEAI",
     "AEAIAEBIAHAEAIAEAICEAIAEAIAEAIAEAIAEAIAEAIAEAIAEAIAEAIAEAIAEAIAEAIAEAIAEAIAEAIAEAIAEAIAE",
     "AIAEAIAEAIAEAIAEAIAEAIAEAIAEAIAEAIAEAIAEAIAEAIAEGIBEAIBEBIAEAIDEAIAEAIAEAIAEAIAE2EGAEwFR",
     "XDFLXNFEXGFAXAFAXQL3PIAEAIAEAFAXAIAEACBFAECUAIACDXBIAUAICCAIACAIBEAIQCAIIE1CIAEBICECIAEA",
     "IAEAIAEAIAEAIAEAIAEAIAEAIAEAIAEAIAEAIAEAIAEEIAEAYAIAEAIBEBI1SE1PIAEAIAEAIAEAIAEAIAEAIAEA",
     "IAEAIAEAIAEAIAEAIAEAIAEAIAEAIAEAIAEAIAEAIAEAZALEKBIAEAIAEAIAEAIAEAIAEAIAEAIAEAIAEAIAEAIA",
     "EAIAEAIAEAIAEAIAEAIAEAIAEAIAEAIAEAIAEAIAEAIAEAIAEAIAEAIAEAIAEAIAEAIAEAIBEAIAEAIAEAIAEAIA",
     "EAIAEAIAEBIAEAIAEAIAEAIAEAIAEAIAEAIAEAIAEAIAEAIAEAIAEAIAEAIAEAIAEAIAEAIAEAIAEAIAEAIAEAIA",
     "EAIAEAIAEAIAEAIAEAIAEAIAEAIAEAIAEAIAEAIAEAIAEAIAEAIAEAIAEAIAEAIAEAIAEAIAEAIAEAIAEAIAEAIA",
     "EAIAEAIAEAIAEAIAEAIAEAIAEACAI1FCBFAUFE1IUAQACBZBWACAL1MQALAUALBUALBUALACHGwCDGDUBCKBFYCU",
     "BWAUBZBLKUABAUCG-FAGJLUMJUDGBLAG3CUAGALGBAZALFFBLBZALDGBMJGCZBGAUNCABAGALAGzLwCBG2YLKGAC",
     "NMJG1ALIFBZAUCFACBLAWBGVLDFALIFALCFALECBUOCAGYLCCBUACAGKCEGXXAGFCABBCELIG1IFALXBAL-JAG1V",
     "LAJALAGAJCLHJDLAJBGALGGJLBUBMJUAFAGOLAJBCAGHCBGBCBGVCAGGCAGACCGDCBLAGAJCLDCBJBCBJBLAGACH",
     "JACDGBCAGCLBCBMJGBWBOFZAWAGAUALACBLBJACAGFCDGBCBGVCAGGCAGBCAGBCAGBCBLACAJCLBCDLBCBLCCCLA",
     "CGGDCAGACGMJLBGCLAUACJLBJACAGICAGCCAGVCAGGCAGBCAGECBLAGAJCLECALBJACAJBLACBGACOGBLBCBMJUA",
     "WACGGALFCALAJBCAGHCBGBCBGVCAGGCAGBCAGECBLAGAJALAJALDCBJBCBJBLACGLBJACDGBCAGCLBCBMJZAGAOF",
     "CJLAGACAGFCCGCCAGDCCGBCAGACAGBCCGBCCGCCCGLCDJBLAJBCCJCCAJCLACBGACFJACNMJOCZFWAZACELAJCLA",
     "GHCAGCCAGWCAGPCBLAGALCJDCALCCALDCGLBCAGCCBGACBGBLBCBMJCGUAOGZAGALAJBUAGHCAGCCAGWCAGJCAGE",
     "CBLAGAJALAJECALAJBCAJBLBCGJBCFGBCAGBLBCBMJCAGBJACLLBJBGICAGCCAG1ILBGAJCLDCAJCCAJCLAGAZAC",
     "DGCJAOGGCLBCBMJOIZAGFCALAJBCAGRCCGXCAGICAGACBGGCCLACDJCLCCALACAJHCFMJCBJBUACLG1PLAGBLGCD",
     "WAGFFALHUAMJUBC1EGBCAGACAGECAGXCAGACAGJLAGBLIGACBGECAFACALGCAMJCBGDC-GAZCUOZAUAZCLBZFMJO",
     "JZALAZALAZALAVARAVARAJBGHCAG1DCDLNJALEUALBGELKCAL1DCAZHLAZFCAZBUEZDUBC1EG1KJBLDJALFJALBJ",
     "BLBGAMJUFGFJBLBGDLCGAJCGBJGGCLDGMLAJBLBJFLAGAJAMJJCLAZBI1FCAIACEIACBE1KUAFAECGaICAGDCBGG",
     "CAGACAGDCBG1ICAGDCBG1ACAGDCBGGCAGACAGDCBGOCAG1YCAGDCBG2CCBLCUIOTCCGPZJCFI2VCBEFCBQAGjLZA",
     "UAGQyAGZVARACCG2KUCNCGHCGGRLCJACIGSLBJAUBCIGRLBCLGMCAGCCALBCLG1TLBJALGJHLAJBLKUCFAUCWAGA",
     "LACBMJCFOJCFUFQAUDLCBALAMJCFG1CFAG1UCGGELBG1BLAGACEG2FCJG+CALCJDLBJCCDJBLAJFLCCDZACCUBMJ",
     "GzCBGECKG1LCDGZCFMJOACCZ1BGWLBJBLACBUBG1UJALAJALGCALAJALAJBLHJFLJCBLAMJCFMJCFUGFAUFCBLNK",
     "ALPC1QLDJAG1OLAJALEJALAJELAJBGHCAUBMJUGZJLIZIUCLBJAGzJALDJBLBJALCGBMJG1LLAJALBJCLAJALCJB",
     "CHUDG1DJHLHJBLBCCUEMJCCGCMJGzFFUBEIIAEACEI1KCBICUHCHLCUALMJALGGDLAGFLAGBJALBGACEE1LF1+EM",
     "FAE1BF1EL1-IAEAIAEAIAEAIAEAIAEAIAEAIAEAIAEAIAEAIAEAIAEAIAEAIAEAIAEAIAEAIAEAIAEAIAEAIAEAI",
     "AEAIAEAIAEAIAEAIAEAIAEAIAEAIAEAIAEAIAEAIAEAIAEAIAEAIAEAIAEAIAEAIAEAIAEAIAEAIAEAIAEAIAEAI",
     "AEAIAEAIAEAIAEAIAEAIAEAIAEAIAEAIAEAIAEAIAEAIAEAIAEAIAEAIAEAIAEAIAEAIAEAIAEAIAEAIAEAIAEAI",
     "AEAIAEAIAEAIAEAIAEAIAEAIAEAIAEAIAEAIAEAIAEAIAEIIAEAIAEAIAEAIAEAIAEAIAEAIAEAIAEAIAEAIAEAI",
     "AEAIAEAIAEAIAEAIAEAIAEAIAEAIAEAIAEAIAEAIAEAIAEAIAEAIAEAIAEAIAEAIAEAIAEAIAEAIAEAIAEAIAEAI",
     "AEAIAEAIAEAIAEAIAEAIAEAIAEAIAEAIAEAIAEAIAEAIAEAIAEAIAEAIAEAIAEAIAEIIHEFCBIFCBEHIHEHIHEFC",
     "BIFCBEHCAIACAIACAIACAIAEHIHENCBEHHHEHHHEHHHEECAEBIDHAXAEAXCECCAEBIDHAXCEDCBEBIDCAXCEHIEX",
     "CCBECCAEBIDHAXBCAyKBEQFUBTASAVATBSAVATAUHwAxABEyAUITASAUDPBUCYAVARAUKYAUAPAUJyABECABJOAF",
     "ACBOFYCVARAFAOJYCVARACAFMCCW1ACOLMKDLAKCLLCOZBIAZDIAZBEAICEBICEAZAIAZBYAIEZFIAZAIAZAIAZA",
     "IDZAEAIDEAGDEAZBEBIBYEIAEDZAYAZBEAZAOPN1CIAEANDOAZBCDYEZEYBZDYAZBYAZBYAZGYAZ+YBZBYAZAYAZ",
     "+Y8LZHVARAVARAZTYBZGVARAZ2QYAZzYYZ1HYFZ2HCVZKCUO1xZ2NOVZ5WYAZIYAZ1VYHZ3OYAZ7XVARAVARAVAR",
     "AVARAVARAVARAVARAOzZ1LYEVARAY+VARAVARAVARAVARAVARAYPZ7-Y4CVARAVARAVARAVARAVARAVARAVARAVA",
     "RAVARAVARAVARAY1+VARAVARAY-VARAY8BZ1PYUZBYFZ1GCBZ-CAZ3II1PE1PIAEAICEBIAEAIAEAIAEAIDEAIAE",
     "BIAEFFBICEAIAEAIAEAIAEAIAEAIAEAIAEAIAEAIAEAIAEAIAEAIAEAIAEAIAEAIAEAIAEAIAEAIAEAIAEAIAEAI",
     "AEAIAEAIAEAIAEAIAEAIAEAIAEAIAEAIAEAIAEAIAEAIAEAIAEAIAEAIAEAIAEAIAEAIAEAIAEAIAEAIAEAIAEAI",
     "AEAIAEAIAEAIAEAIAEAIAEAIAEAIAEBZFIAEAIAEALCIAEACEUDOAUBE1FCAEACEEACBG1XCGFAUACNLAGWCIGGC",
     "AGGCAGGCAGGCAGGCAGGCAGGCAGGCAL-UBTASATASAUCTASAUATASAUIQAUBQAUATASAUBTASAVARAVARAVARAVAR",
     "AUEFAUJQBUDQAUAVAUMZBUCVARAVARAVARAVARAQAC1BZZCAZ2YCLZ6VCZZPyAUCZAFAGANAVARAVARAVARAVARA",
     "VARAZBVARAVARAVARAVARAQAVARBZANILDJBQAFEZBNCFAGAUAZBCAG2VCBLBXBFBGAQAG2ZUAFCGACEG1KCAG2z",
     "CAZBODZJG-Z1FCIZAGPZ+CAOJZzOHZAOOZ-OJZ1GOOZ9-G6d-Z1-GkgUFAG13WCCZ1WCIG1HFFUBG8LFAUCGPMJG",
     "BCTIAEAIAEAIAEAIAEAIAEAIAEAIAEAIAEAIAEAIAEAIAEAIAEAIAEAIAEAIAEAIAEAIAEAIAEAIAEAIAEAIAEAI",
     "AEAIAEAGALAKCUALJUAFAIAEAIAEAIAEAIAEAIAEAIAEAIAEAIAEAIAEAIAEAIAEAIAEAIAEAIAEAFBLBG2FNJLB",
     "UFCHXWFIXBIAEAIAEAIAEAIAEAIAEAIAEAIAECIAEAIAEAIAEAIAEAIAEAIAEAIAEAIAEAIAEAIAEAIAEAIAEAIA",
     "EAIAEAIAEAIAEAIAEAIAEAIAEAIAEAIAEAIAEAIAEAIAEAIAEAIAEAIAEAIAEAIAEAIAEAIAEAFAEHIAEAIAEAIB",
     "EAIAEAIAEAIAEAIAEAFAXBIAEAIAEAGAIAEAIAECIAEAIAEAIAEAIAEAIAEAIAEAIAEAIAEAIAEAIAEAIEEAIEEA",
     "IAEAIAEAIAEAIAEAIAEAIAEAIAEAIDEAIAEAIBEACBIAEACAEACAEAIAEAIAEAIAEAIACUFCIAEAGAFBEAGGLAGC",
     "LAGDLAGWJBLBJAZDLACCOFZBWAZACFG1TUDCHJBG1RJPLBCHUBMJCFLRGFUCGAUAGBLAMJGxLHUBGWLKJBCKUAGy",
     "CCLCJAG1OLAJBLDJBLBJCUMCAFAMJCDUBGELAFAGIMJGECAG1ILFJBLBJBLBCIGCLAGHLAJACBMJCBUDGPFAGFZC",
     "GAJALAJAG1RLAGALCGBLBGELBGALAGACXGBFAUBGKJALBJBUBGAFBJALACJGFCBGFCBGFCIGGCAGGCAE1KXAFDEI",
     "FAXBCDE2PG1CJBLAJBLAJBUAJALACBMJCFGatDCLGWCDG1QCDz1v-D67-GbNCBG3JC1FEGCLEECEGALAGJYAGMCA",
     "GECAGACAGBCAGBCAG3LXQCPGbKRAVAZPG1-CBG1VCGZAC-GLWAZCLPUGVARAUACFLPUAQBPBVARAVARAVARAVARA",
     "VARAVARAVARAVARAUBVARAUDPCUCCAUDQAVARAVARAVARAUCYAQAYCCAUAWAUBCDGECAG4GCBBACAUCWAUCVARAU",
     "AYAUAQAUBMJUBYCUBIZVAUARAXAPAXAEZVAYARAYAVARAUAVARAUBGJFAG1MFBG+CCGFCBGFCBGFCBGCCCWBYAXA",
     "ZAWBCAZAYDZBCJBCZBCBGLCAGZCAGSCAGBCAGOCBGNC1BG3wCEUCCDO1MCCZIN1UODZQOBZCCAZMCCZAC1OZ1MLA",
     "C4BGyCCG1QCOLAOwCDG-ODCIGTNAGHNACEG1FLECEGzCAUAG1DCDGHUANEC1JI1HE1HG2NCBMJCFI1DCDE1DCDG1",
     "HCHG1TCKUAIKCAIOCAIGCAIBCAEKCAEOCAEGCAEBCCG1TCLG9WCIGVCJGHCXFFCAF1JCAFIC2EGFCBGACAG1LCAG",
     "BCCGACBGWCAUAOHGWZBOGG+CHOIC1PGSCAGBCEOEGVOFCCUAGZCEUAC1-G1XCDOBGBOPCBO1NGALCCALBCELDGDC",
     "AGCCAGyCBLCCDLAOICGUICGGyOBUAGyOCC-GHZAGxLBCDOEUGCIG1VCCUGGVCBOHGSCEOHGRCGUDCLOGC2PG2IC1",
     "WI1SCME1SCGOFG1DLDCHMJCFMJGDFAGAIVCCLEQAFAEVCHYBC6PO+CAG1JCALBQACBGBCPGCC1WLDGyOJGACHGVL",
     "KODUECVGRLDUDC1FGUOGCTGWCIJALAJAG1ULOUGCDOTMJLAGBLBGACILCJAG1MJCLDJBLBUBBAUDLACJBACBGYCG",
     "MJCFLCG1DLEJALHCAMJUDGAJBGACHG1CLAUBGACILBJAG1PJCLIJBGDUDLDUAJALAMJGAUAGAUCCAOTCKGRCAGYJ",
     "CLCJBLAJALBUFLAGBLAC1zGGCAGACAGDCAGOCAGJUACFG1OLAJCLHCEMJCFLBJBCAGHCBGBCBGVCAGGCAGBCAGEC",
     "ALBGAJBLAJDCBJBCBJCCBGACFJACEGEJBCBLGCCLECKGJCAGACBGACAG1FCAGAJCLFCAJACBJACAJDCAJBLAJALA",
     "GALAGAUBCAUBCHLBCyG1UJCLHJBLCJALAGDUEMJUBCAUALAGCCzG1PJCLFJALAJDLBJALBGBUAGACHMJC5FG1OJC",
     "LDCBJDLBJALBUWGDLBC1BG1PJCLHJBLAJALBUCGACKMJCFUMCSG1KLAJALAJBLFJALAGAUACFMJCFMTCxGwCBLAJ",
     "ALAJBLDJALECDMJOBUCZAGGC5YG1LJCLIJALBUAC3DI-E-MJOICLGHCBGACBGHCAGBCAGXJFCAJBCBLBJALAGAJA",
     "GAJALAUCCIMJC2FGHCBG1GJCLDCBLBJDLAGAUAGAJACwGALJG1HLFJAGALDUHLACHGALFJBLCG1NLMJALBUCGAUE",
     "CMG2ICGUJC5VG1AUACNMJCFGICAG1EJALGCALFJALAGAUECJMJOSCCUBGzCBLVCAJALGJALBJALBC2IGGCAGBCAG",
     "1FLFCCLACALBCALGGALACHMJCFGFCAGBCAG-JECALBCAJBLAJALAGACGMJC9VGSLBJBUBCGLBGAJAGMCAG1BJBLE",
     "CCJBLAJALAUMMJLAC2UGACOOUZHWDZQCMUAGsZC3FN3OCAUECKG6DC2iLG3AUBCMG11PBPLAGFLOCJG3swCEGiGC",
     "6lYGzLLJCLCMJC1mFGhYCGG+CAMJCDUBG2OCAMJCFGzCBLEUACJG1PLGUEZDFDUAZACJMJCAOGCAGUCEGSCdPFCG",
     "1HFBUCMJC6FI-E-OWUDC3EG2KCDLAGAJ1WCGLDFMC1-FBUAFALACKJBCNG5vXCHG16VC1IGJC8nGFDCAFGCAFBCA",
     "G9CCOGACyGCCBGACNGDCHGcLC28DG3KCEGMCCGICGGJCBZALBUABDC3qxZ7PMJCFZdTC2LL1NCBLWCIZ3TC1xZ7V",
     "CJZ1GCBZ1xJBLCZCJFBHLHZBLGZzLDZ1yCUZ2BLCZAC3ZOTCLOTCLZ2WCIOYC4GIZEZIZEGCAERIZEZIACAIBCBI",
     "ACBIBCBIDCAIHEDCAEACAEGCAEKIZEZIBCAIDCBIHCAIGCAEZIBCAIDCAIECAIACCIGCAEZIZEZIZEZIZEZIZEZI",
     "ZEZIZExCBIYYAEYYAEFIYYAEYYAEFIYYAEYYAEFIYYAEYYAEFIYYAEYYAEFIAEACBM1RZf-L1WZDL1RZHLAZNLAZ",
     "BUECOLECALOC12PEJGAETCFEFC6ULGCALQCBLGCALBCALECEF1zC1ALAC3PG1MCCLGFGCBMJCDGAZAC9-GzLACQG",
     "1LLDMJCEWACePGwFALDMJC6VGzLBGAMJCDUACe-GGCAGDCAGBCAGOCAG6ECBOILGC1II1BE1BLGFACDMJCDUBCoQ",
     "O1wZAOCWAODC2LO1MZAOOC6BGDCAGwCAGBCAGACBGACAGJCAGDCAGACAGACFGACDGACAGACAGACAGCCAGBCAGACB",
     "GACAGACAGACAGACAGACAGBCAGACBGDCAGGCAGDCAGDCAGACAGJCAGQCEGCCAGECAGQC1TYBC8NZ1LCDZ3DCLZOCB",
     "ZOCAZOCAZ1ECJOMZ5AC1XZyCMZ1LCDZICGZBCNZFC4ZZ7wXEZmXCDZQCCZMCCZ3WCDZ2+CFZLCDZACOZLCDZ1XCH",
     "ZJCFZ1HCHZzCBZLCDZBC1zZaTCLZNCBZMCCZJCEZ1XCGZOCBZKCFZICGZ4SCAZ2xMJC10FG19m-C-G41ZCFG6zCB",
     "G5kBCNG79QCOGjNC2dBGgzC1fBG4qKCEG42-Cln2QBACzB2-C3-L7PC1vgPD1vvzCBD1vvzCB"]

/-- The code points whose category is one of `shorts`. -/
def table (shorts : List String) : RangeTable :=
  RangeTable.ofPartition partition fun k =>
    match names[k]? with
    | some (short, _) => shorts.contains short
    | none => false

/-- The code points of a category or group, by its short or long name with case, blanks, hyphens and
underscores ignored. -/
def find? (normalized : String) : Option RangeTable :=
  match names.find? fun (short, long) => sameName short normalized || sameName long normalized with
  | some (short, _) => some (table [short])
  | none => (groups.find? fun (name, _) => sameName name normalized).map fun (_, shorts) => table shorts

end GeneralCategory

end SyscallFilter.Unicode
