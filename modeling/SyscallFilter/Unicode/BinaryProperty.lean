import SyscallFilter.Unicode.RangeTable

/-! # Yes-or-no properties -/

namespace SyscallFilter.Unicode

namespace BinaryProperty

/-- The names of each property and the code points that have it. -/
def properties : List (List String × String) :=
  [(["ASCII_Hex_Digit", "AHex"],
    "1QJHFwF"),
   (["Alphabetic", "Alpha"],
    String.join
     ["2BZGZ1PAKAEAFWB+BeJELOEHABA2WAzRBBCDBAGABCBABTB2SB4KI5FB1FCAG1I1HNBABBBBBAIwEDzKF1XBGO3",
      "FBHEHECKCCAQ1PN3EY1AJBEAFXCSTYHKFXBFIAI1JKLDGG2LBPBCEONSBHCBCVBGBADDDHCBCBBAIAEBBEMBKAE",
      "CBFEBCVBGBBBBBBEEEBCBEAHDBARFLCBIBCBVBGBBBEDIBCBBDAPDVDECBHCBCVBGBBBEDHCBCBJBEBBENAQBBF",
      "DCBDDBBABBDBDCDLEEDCBCDAGA1IMBCBWBPDHBCBCIBBCCACDyDBHBCBWBJBEDHBCBCIBGBBDNCMMBCB1ICHBCB",
      "CBAFDHEWFBCBRDXBIBACGIFBABHSBN1ZFGGA1TBBABEBXBABSBCCEBAGAOD1AA1-HB1DESEPB1D2D1WBACEQ1-K",
      "DC1FBAFAC1KBaMBDCGBABDC1IBDC1ABDCGBABDCOB1YBDC2C1FPQ2VCFDjLCQBZF2KDKHTLUMTMMBCBBM1TCSOA",
      "EA2D2YH1KF2FK+BLEIXzCEL1LEZ1WxE1+CT1SAXBLC1R1TBOBH1T1JCDK1LBKO1WWCK1DCKF1KCC1JDBFBBDAF5",
      "-T1BL8VCFC1FCFCHBABABAB+C1UBGBADCBGDDCFEMFCBG3UANAQM3FAEACJBADEGABABABDBKCDFEEAR1IpN1T1",
      "oW7EGDDBM1FBAFAC1XHAQWJGBGBGBGBGBGBGBGB-1PAeVCZIHECEE2VGCB2ZBDF1KB2zR-1QPgA6d-2AlkM2D1N",
      "C8MDPKBU1OFHD3Q1HIC3GC2CCBBABHVTB1AY1TM2DBA1MFDABCK1AF1CNyD1SBLPAQPKEB1WJNSWD2EBABAYCCP",
      "CDLFCFCFJGBGB1KBNG3wVatDMWE1Q88EbNC3J1GGMEFLBMBEBABBBBB3L1BbKS1-C1V1IL3UEB4G1EZGZL2YDFC",
      "FCFCC1DLBZBSBBBOCN1C3w2F1U8LyD1Q1P-NzF1KFzC1DEHBE1K4zS1DE1DE1HI1TMKBOBGBBBKBOBGBBD1TM9W",
      "JVKHYFB1JBI2FFCAB1LBBDACWKWJ+2BSBBKVKZ2G1XGB2ADBBFHBCBy1KyDy1DHBxx1VKVKSNR3O2I1X1SN1SN1",
      "H1CxDAFW7w1JBBDBQC1XADyKAIV1KR1OUxWJ2F1LEK1YJANYX1SRDI1CDAJ1-BDJBKABA1DRB1BCAGD1+GBABDB",
      "OBJH1YXDBHCBCVBGBBBEDHCBCBDAGAFGyJBACAB1FBJBACABDBBDABA1M2BBCBDUC+2BCBBA5Y1VCGZF1C1+BAD",
      "A1x1VCA2HwCNVG5Z1Y3H1--HCACHBBBzBBCBCD2zHC1NCFBABBx1SCJR2HFAS2I6H1A-IB1MBGBA1RzCVBN2JGB",
      "BB1LDABBBCBACBYFBBB1EBBBDBAaHWJQB1IDC3PA2PsZ3G3OR6D2iM3AP11PRFZ3swFiG6lZ1O1mRhYH+R2ORzS",
      "1PQD-UFSdQ1M6T1-4A2KE1YHQ2ABBAMBO5vXI16V1JJ8nHDBGBBB9CPAzCCAODIcL28E3KFMDIHJEA5rB2UB2GB",
      "BCACBCDBLBABGB2ABDCHBGBxBDBEBADGBaTCYBYB+BYB+BYB+BYB+BYBH1pU+GF6VGBQCGBBBEF1z1BA3Q1MKGQ",
      "AaBzS1LfEx7EzCAfPGBDBBBOB6E1x2DDADA15UDBwBBBACABJBDBABAGAEABABABCBBBACABABABABABBBACDBG",
      "BDBDBABJBQFCBEBQjUZGZGZ3jW19m-1A41ZG6zC5kBO79QPjN2dCgz1fC4qKF42-"]),
   (["Bidi_Control", "Bidi_C"],
    "1gyA6fRBwE1XD"),
   (["Bidi_Mirrored", "Bidi_M"],
    String.join
     ["1IBSABAyABAzABA1NAPA3j+D1qzB2cyBKB1WBOB5RA6ADDFDADBDDBDBABAEIFABRFDJBBABHB-CDFAJBCSFBJE",
      "CBEXCPIDUBHB11zN2KACDBBBCFDFCDNcTVCFBNIAHFDAEEBBCEEABCCBKFCBMSBDCABACABDFBGCYBLBEDBBCBE",
      "1KCHB1HFABADEFCEADEBA8AAgDDDBBBOBCJ1LHdLJCH1jhzFFB5CBSABAyABAzABABBBB1lrXA1ZA1ZA1ZA1ZA"]),
   (["Case_Ignorable", "CI"],
    String.join
     ["1HAGALA1DABA2HAEABAEACBfX5-EBEAJBBA7xG6PAFA1R1MBABBBBBA1MALFKKBA1DAKUQA3FHBJBD1BABA+w2x",
      "K1wKEACAYX1LC1MAHBFI1J1Z1XABAEHEADGKBNAPA1wAEDIAUBwACB1ZAEBEBCCDA+BDALB1ZAEEBBEAUBWFBA1",
      "wACABDIAHBLB+A1zAMA1SADA1XABCFCBDHBLBzA1wACAGAFBUByB1ZBEDIAUBzA2IAHCBA2wACGLI3CACIJABG2",
      "JBxABABA1XNBEBBFKB1DJA3GDBFBBCBZBECQDNACBGAPA2+AjACtSCzB+B+B2ABBGIACKDAFA1NE1TA2BB1CA3W",
      "CEBJAGC6xBCA1wABGBABACHGJCA1HAI+1RD1QABEBAFA1IIMB1ADCBBC1YABBDABC1wHCB2AF2SCBMBGEAGADB1",
      "S1+NA1C3EdzABCLCNCNCNBMEIBKACACE1REBJBANAQM1T1A2sLB3RC3zAPA3A-1PAeVA1EDDEFA2zF2zCroWA17",
      "CF8OA3CDBJBAyD2QBO1B2OAXC3HCDBIADAEAZBFA4XBwRNA1GHZK1OC1QACDCBRAVB2CFCBCBMAIA1DALA1TABC",
      "CBFBBAxAOBFBBA3EEJC3ZACAEAjpQA4TQhzPDAMP1CACA5JAHAGALA1DABA1PA1NB2DAVCgBA7CA4VE10FFB1JB",
      "IiGCBBFD1ICEA5FBhzD1GAwEBA9xB2PD2GK1RD3xA1WO1JACBKC1RDCBCAEAKA1SC1EEBH1+AMB1UIKDCA2-CCA",
      "BBGACA4zADHVB1ZBDA1FGDE2GFNABABAOB2VHCCBAXA2UFBAEBBB7ODGBBBxB2VHCABB3KABACFBA3FABACDBE8",
      "DIBB8ABBAEA4QDCBEA1AJ1IFCDIAJFCC1OMBBcWGBFBA2SVCGBBBB3wFDABBBGBA2IBDABAaxBLB1UEFABAXA56",
      "VQGOb6ILDC2eAE1xGJDfyC1IBfCA1-Q2ABBBg0LDBGBB34+BBD4iy1NCWhACJPCG+D4UC1tx1WE1RIAOAWEBO1a",
      "QGBQCGBBBEF1z1BA5ANbQA1zDfxE7+BnAG3NH2lPEo30BA+2-4A7P"]),
   (["Cased"],
    String.join
     ["2BZGZ1PAKAEAFWB+B6CBDE6PB1DHB+E3AA1KDCBCDBAGABCBABTB2SB4KI5FB1FJ1I2oX1FBAFAC1KBDlA2VCF2",
      "4CKF1KCC2A5-2A8VCFC1FCFCHBABABAB+C1UBGBADCBGDDCFEMFCBG3UANAQM3FAEACJBADEGABABABDBFEACDF",
      "EEAR-DBpR1T1oW7EGDDBM1FBAFAu8S1NSz4E3FDDB1zCBBABHVEBCpV1KBNG2PjqAGME10JZGZ15F2P3A1DE1D3",
      "UKBOBGBBBKBOBGBBeDACCB1JBI16F1SN1S2zVKV2ow1-lbA1-pcA2UB2GBBCACBCDBLBABGB2ABDCHBGBxBDBEB",
      "ADGBaTCYBYB+BYB+BYB+BYB+BYBH1pUJBTGF8F1z24S2D1vMZGZGZ"]),
   (["Changes_When_Casefolded", "CWCF"],
    String.join
     ["2BZ2wAKWBH1AABABABABABABABABABABABABABABABABABABABABABABABABABABABACABABABABABABABABBBA",
      "BABABABABABABABABABABABABABABABABABABABABABBBABABABBBABBBCCDBBBCDBBBBABABBBACABBBCBABBD",
      "AHBBBBBBABABABABABABABACABABABABABABABABACBBABCBABABABABABABABABABABABABABABABABABABABA",
      "BABABABABABABABABAHBBBCABDBABABABA7WA1KABADAIAGABCBABBBQBIWAMCDBBABABABABABABABABABABAB",
      "ABBCBBABBC1S1QABABABABABABABABABABABABABABABABAJABABABABABABABABABABABABABABABABABABABA",
      "BABABABABABABABBBABABABABABACABABABABABABABABABABABABABABABABABABABABABABABABABABABABAB",
      "ABABABABABABABABABABABABABABABABABABAC1F1QA2oY1FBAFApKF24CJG1KCCaAABABABABABABABABABABA",
      "BABABABABABABABABABABABABABABABABABABABABABABABABABABABABABABABABABABABABABABABABABABAB",
      "ABABABABABABABABABABABABABABABABABABABABAFBCABABABABABABABABABABABABABABABABABABABABABA",
      "BABABABABABABABABABABABABABABABABABABABABABABABABABABAJHIFKHIHIFLABABABAIHQ1PCCCFFCCFLD",
      "MEFCCF9JADBGA1NPTApSZ1pQ1P1QABCCABABABDBACAICBABABABABABABABABABABABABABABABABABABABABA",
      "BABABABABABABABABABABABABABABABABABABABABABABABABABABABAIABAEAuaNABABABABABABABABABABAB",
      "ABABABABABABABABABABABATABABABABABABABABABABABABABA4HABABABABABABADABABABABABABABABABAB",
      "ABABABABABABABABABABABABABABABABABABABABAKABABBBABABABAEABACABADABABABABABABABABABABEBE",
      "BABABABABABABABDBABBDAFABABABAYArw2PjqAGME10JZ16F1H4I1D4yKBOBGBB1nK1S4zV2pw-lcA-ulA1B"]),
   (["Changes_When_Casemapped", "CWCM"],
    String.join
     ["2BZGZ1wAKWB+B1-B2TBxCNCBBAE2yBRGwBBBABBDBBDBECABBCAHACABBDFFAKB5GA1KDCBDCBAGABCBABTB1OD",
      "1ABEB4EI5FB1FK1G2oY1FBAFAC1KCClA2VCF24CKF1KCC5ZADAQA3R4xCAB3VCFC1FCFCHBABABAB+C1UBGBADC",
      "BGDDCFEMFCBG9JADBGAxAR-DBpR1T1oW3QBBBBH3FHDDBM1FBAFAu8S1NSx4GNC1zJODCCEBYBzCBEGYBqyAy2P",
      "jqAGME10JZGZ15F2P3A1DE1D3UKBOBGBBBKBOBGBB1mD1SN1S2zVKV2ow1-lbA1-ukA2D"]),
   (["Changes_When_Lowercased", "CWL"],
    String.join
     ["2BZ3FWBG1BABABABABABABABABABABABABABABABABABABABABABABABABABABABACABABABABABABABACABABA",
      "BABABABABABABABABABABABABABABABABABABABABBBABADBBABBBCCDBBBCDBBBBABABBBACABBBCBABBDAHBB",
      "BBBBABABABABABABABACABABABABABABABABACBBABCBABABABABABABABABABABABABABABABABABABABABABA",
      "BABABABABABABAHBBBCABDBABABABA9BABADAIAGABCBABBBQBI1DAIABABABABABABABABABABABAFACABBC1S",
      "1QABABABABABABABABABABABABABABABABAJABABABABABABABABABABABABABABABABABABABABABABABABABA",
      "BABBBABABABABABACABABABABABABABABABABABABABABABABABABABABABABABABABABABABABABABABABABAB",
      "ABABABABABABABABABABABABAC1F2qJ1FBAFAmS2V24TAG1KCCaAABABABABABABABABABABABABABABABABABA",
      "BABABABABABABABABABABABABABABABABABABABABABABABABABABABABABABABABABABABABABABABABABABAB",
      "ABABABABABABABABABABABABABAJABABABABABABABABABABABABABABABABABABABABABABABABABABABABABA",
      "BABABABABABABABABABABABABABABABABABABAJHIFKHIHIFLABABABAIHYHIHIHIELELDMELE9JADBGA1NPTAp",
      "SZ1pQ1P1QABCCABABABDBACAICBABABABABABABABABABABABABABABABABABABABABABABABABABABABABABAB",
      "ABABABABABABABABABABABABABABABABABABAIABAEAuaNABABABABABABABABABABABABABABABABABABABABA",
      "BABATABABABABABABABABABABABABABA4HABABABABABABADABABABABABABABABABABABABABABABABABABABA",
      "BABABABABABABABABABABAKABABBBABABABAEABACABADABABABABABABABABABABEBEBABABABABABABABDBAB",
      "BDAFABABABAYAlpLZ16F1H4I1D4yKBOBGBB1nK1S4zV2pw-lcA-ulA1B"]),
   (["Changes_When_Titlecased", "CWT"],
    String.join
     ["3BZ1wA1JXBHBABABABABABABABABABABABABABABABABABABABABABABABABABABABACABABABABABABABBBABA",
      "BABABABABABABABABABABABABABABABABABABABABACABABCCABACADAFACADCCACABABACAEACADABACADABAE",
      "ABBBBBABABABABABABABABBBABABABABABABABABCBABADABABABABABABABABABABABABABABABABABABABADA",
      "BABABABABABABABAIACBBAEABABABABFBBBABBDBBDBECABBCAHACABBDFFAKB5GA1LABADADCSAx1CBBDCBABA",
      "BABABABABABABABABABEBACACA1U1PBABABABABABABABABABABABABABABABABAJABABABABABABABABABABAB",
      "ABABABABABABABABABABABABABABABACABABABABABABBBABABABABABABABABABABABABABABABABABABABABA",
      "BABABABABABABABABABABABABABABABABABABABABABABABABABABA1R1G3jQF24CIBA7OADAQA3SABABABABAB",
      "ABABABABABABABABABABABABABABABABABABABABABABABABABABABABABABABABABABABABABABABABABABABA",
      "BABABABABABABABABABABABABABABABABABABABABABABABABABGFABABABABABABABABABABABABABABABABAB",
      "ABABABABABABABABABABABABABABABABABABABABABABABABABABABABABABIIFKHIHIFKHIHINCHIHIHIEBBGA",
      "DCBBIDCBIHKCBBaWA1BPEAqLZ1qG1PBADBBABABAGACAKABABABABABABABABABABABABABABABABABABABABAB",
      "ABABABABABABABABABABABABABABABABABABABABABABABABABABABABAIABAEAM1FBAFAu8TABABABABABABAB",
      "ABABABABABABABABABABABABABABABATABABABABABABABABABABABABABA4HABABABABABABADABABABABABAB",
      "ABABABABABABABABABABABABABABABABABABABABABABABABAKABACABABABABAEAEABBCABABABABABABABABA",
      "BALABABABABABABABAEABACADAFABABAwAqyAy2PjqAGME11JZ16N1H4I1D4xKBOBGBB1oD1S3zV2pw-lcA-ulC",
      "1B"]),
   (["Changes_When_Uppercased", "CWU"],
    String.join
     ["3BZ1wA1JXBHBABABABABABABABABABABABABABABABABABABABABABABABABABABABACABABABABABABABBBABA",
      "BABABABABABABABABABABABABABABABABABABABABACABABCCABACADAFACADCCACABABACAEACADABACADABAF",
      "BBBBBBABABABABABABABBBABABABABABABABABBBBBADABABABABABABABABABABABABABABABABABABABADABA",
      "BABABABABABABAIACBBAEABABABABFBBBABBDBBDBECABBCAHACABBDFFAKB5GA1LABADADCSAx1CBBDCBABABA",
      "BABABABABABABABABEBACACA1U1PBABABABABABABABABABABABABABABABABAJABABABABABABABABABABABAB",
      "ABABABABABABABABABABABABABABACABABABABABABBBABABABABABABABABABABABABABABABABABABABABABA",
      "BABABABABABABABABABABABABABABABABABABABABABABABABABA1R1G2qI1KCCnYF24CIBA7OADAQA3SABABAB",
      "ABABABABABABABABABABABABABABABABABABABABABABABABABABABABABABABABABABABABABABABABABABABA",
      "BABABABABABABABABABABABABABABABABABABABABABABABABABABABGFABABABABABABABABABABABABABABAB",
      "ABABABABABABABABABABABABABABABABABABABABABABABABABABABABABABABABIIFKHIHIFKHIHINC1UBBEAB",
      "ADCBBEADDCBIHKCBBEAaRA1BPEAqLZ1qG1PBADBBABABAGACAKABABABABABABABABABABABABABABABABABABA",
      "BABABABABABABABABABABABABABABABABABABABABABABABABABABABABABABAIABAEAM1FBAFAu8TABABABABA",
      "BABABABABABABABABABABABABABABABABABATABABABABABABABABABABABABABA4HABABABABABABADABABABA",
      "BABABABABABABABABABABABABABABABABABABABABABABABABABABAKABACABABABABAEAEABBCABABABABABAB",
      "ABABABALABABABABABABABAEABACADAFABABAwAqyAy2PjqAGME11JZ16N1H4I1D4xKBOBGBB1oD1S3zV2pw-lc",
      "A-ulC1B"]),
   (["Dash"],
    "1NA1ayA1TA3iBA10FA20JF1zA1HAPAcGA30EACA-BEAyAd+ATA3PA1jcQB1FAKA5JA3jAA9+A"),
   (["Default_Ignorable_Code_Point", "DI"],
    "5NAlBAmMA2qCB1iTB2VE1vxEwE1RP47UA1j4xP7PA5AA2PI1f5HD56PHobkF3v-"),
   (["Deprecated", "Dep"],
    "aJA19JA28DABA21JB26FFlZBrn6WA"),
   (["Diacritic", "Dia"],
    String.join
     ["2+ABA2HAGAEACBfX4+BHFFRBEAJB7zE6RA1XQBwBABBBA4GHEB4GBEBDC2Dw2xK1wK1CB3+H1JJQx1zAQADDyA2",
      "KAQA3OAQA3OAQA1PC1yAQAHA3XA3OAQA3OAQA3NBQA3yA3PAMFBA3LANE2LBxABABAEB2CCBB1+A3QABB1IBEEZ",
      "GBAKBmBCtUB+A4UKJAaxC9EAUHCA1QOCK3IAPA1GI1WB1wALB2CB2AF2SYEAGACC1S1+2ZL1FKdzABCLCNCNCNB",
      "37QC9zAfwF3JD2-AtbSAMBBAyB2SBO1B3GC3NBMA1FA4XAxR1ZD1EA2-AMA1EA4VC2BD1TA3EEJC4ABjpQAoBP8",
      "OABA1PA1NB2DAnyA14-FB1JBIjzCEA5FBhxF1GAwEcPC2GK1RD6AA1JA2IB3YB1+A2MAJC3IB5SB2QBQAYGDE2Z",
      "CBBNB2-ADA3xB7xB3+A3WB3TA8NB8CBEA4yA2TASA2RAdFA8CABB2RAdJBXA57MOb6ZA2eAE1xGhUBhCQ2QBfv+",
      "DBGBB7oB1NCWhACDFIHCG+D3kC1z6CGbXA1zDn+BnAG3NCBC"]),
   (["Emoji"],
    String.join
     ["1DAGAFJ3PAEA7sNAMA6YAWA2wFPBbPBMA5GAZKEC6HA7HBKAJA1wDBEJACACBCAEACABBCADADBICFABAFLLBCA",
      "BBBASACBSFBABBDBFACBEBLBFBCAFBBABBUBFFBDCAEACACFBACABABAGADAGAKBPACAEABAECBALB1QCJAOAOA",
      "bUBePCTB1TAEA16wAMAiZABA3fbKA6KA5ABMBOACJ2LZBBXAUACIVB5O1BC3PCBBCC2SCCB8GB1+LFBXHBCHMAC",
      "DCAEBNBCAIBJAFCMCICCABAEAGADAG2V1Q2FFHCCEJDABBDACJ7DLEA8x1OBJB5Y3QMDJF1XHOCKGI"]),
   (["Emoji_Component", "EComp"],
    "1DAGAFJ7uTA6VA1n9LA1suWZfxE1dQDo1jM2-"),
   (["Emoji_Modifier", "EMod"],
    "3svxE"),
   (["Emoji_Modifier_Base", "EBase"],
    String.join
     ["9gzA6xAQD3j3XA1yCCACC3VBCKVSDAECBCHABAYA6JBEAVAEB5OCDE2TAQCJALAh-ACAIHGAJJCC1YA1zBBBBAR",
      "CBM7FC1KI"]),
   (["Emoji_Presentation", "EPres"],
    String.join
     ["8owB6NDDACAgJBVB1SL1LATANAIBRBFBIAFAVAHBBAEACAHAEByA1DABAECBA1zCYAOAqxB1TAEA3h5OA6KA5+A",
      "CJ2LZBAYAUACEBCVB5O1AMIB2FBVM1KEEMQDAD2GBAB5wC1+NDBXSAwBNA2W2U1Q2FGADCCCEDLBHI7DLEA8x1O",
      "BJB5Y3QMDJF1XHOCKGI"]),
   (["Extended_Pictographic", "ExtPict"],
    String.join
     ["5JAEA7sNAMA6YAWA2wFPBbPBMA2-A2GAZKEC6HA7HBKAJA1wDBFBLB3RK3VCKBABAGADAGAKBPACAEABAECBALE",
      "1NCJAOAOAbUBePCTB1TAEA16wAMAiZABA3fbG7-NC-A1yFMBOACJS1YxOKAUACIBDJdRF9zI8J1Q3-3UL2V1KMD",
      "1YHKF1IH+2RM1OBJBdY8Avz"]),
   (["Extender", "Ext"],
    String.join
     ["5XAgYBrOAdZAjWA4JA2ZAnQA3-A2aDA1YAjDAcOA2EA4sJA1LE3HB2zCroWA1fWAuCAWA4JA3MAVBl3xA20QB1e",
      "LAxAEA16HA9FA3UBfSC16PAk5JB14yBBAsaYB15RAqUC"]),
   (["Grapheme_Base", "Gr_Base"],
    String.join
     ["1A2+1BMBiR3QHCFEGBABTB6-H5FB1FC1RCC1OABACACAJwEFRJLAB1NVPB3EIAGBCAE-CABzz2YLAO1KJGDXEAJ",
      "ADAHOBYFABKF+R1J1Z1WBABDIDBCHJCyBBBHCBCVBGBADDDABBGBCBBANBBCEXFABFEBCVBGBBBBBBECYDBAHJC",
      "CBAMABIBCBVBGBBBEDDIABBDAPBELHAIBBHCBCVBGBBBEDACAGBCBPBBCERLABFDCBDDBBABBDBDCDLFABBDCBC",
      "DAVUGCBHBCBWBPDADDTCCACBEJHJBKBCBWBJBEDBCABBYBBBEJBCOKBCB1ICABBFCBCBBECBJEZCBBRDXBIBACG",
      "JBGGHJCCM1PBBLHIM1FBBABEBXBABJBBJACEBAJJCD1AXCwBABABNB1DSAFACE1RHBFBM1F1MEAGACBCYCDDPEM",
      "BBCFBOB1HBAFACbYBDCGBABDC1IBDC1ABDCGBABDCOB1YBDC2CFyDZG2VCFCkyD2YHRNSDBJROMBCP1TCAHHBBL",
      "IDJGJGKFJG2YHEC1BBAF2FK+EDCCEBBFHAD1JCEL1LEZGKD1YCBD1XBAJABBIFNJGJGN2W1PKDDHByJLC-EBG1X",
      "BACCBAN1PIBFOD1zF1KCKLANAHDBFBCCAF5-2A8VCFC1FCFCHBABABAB+C1UBOBNCFBSCCBIBKFXH1QQBCwBMD1",
      "A1-4LEkZWKV1oTC-BaXDBF1MBAFAC1XHBPWJGBGBGBGBGBGBGBG1B2z1CZB2YM6Vw1ZGPB2VE3EF1KB2zB2VJ1P",
      "BsjMD1WJaxU1OEAK-C2PCFI6NCBBABHVPBCBDBYCEEJG1XI2DKLYMB1FIYLAMzG1PBBEBCBBMBKEGBYB1IGBCBL",
      "CBHBACJC-B1SBADBCECABAYQCHLFCFCFJGBGB1xE3UBBBDDJGatDMWE1Q88EbNC3J1GGMEFABXBEBABBBBB3yQd",
      "yC1VHA1APQJW1CBSBDEEB4GE4yC+DFCFCFCCDGBGNBCLBZBSBBBOCN1C3wFCE1MD2XBMDA1P1M4DyD1QQwE1DJz",
      "F1FKzB1EEN1K4zCJG1DE1DE1HI1TLLBOBGBBBKBOBGBBD1TM9WJVKHYFB1JBI2FFCAB1LBBDACWB2HII1QSBBF1",
      "ADwFA2A1XETC1OPDBCByKIHIH1-1A1EGLJ1VDyCwFZHDMG2Q2I1X1SN1SH1JMJG1FIXIB6Q+B1JDACBQC1x1HIV",
      "LIWRED1GxUWJAB1VPGEzBBCAM1QEBCBBDOYHJJ1DFAJRI1CBCL1TJABHEBBPBTLRBxDBEFBB1-GBABDBOBKG1OB",
      "CNJIBBHCBCVBGBBBEDABABDCBCBDAMGyJBACAB1FBABBPABBDABCBB1H1XIBDABUBABC+1PBBGABBBACACDIJ5G",
      "1OBBGDCACw1E1SIBBACDLJGMT1KBABBIBGJGTywDABBEAJW5Z1OJACA3E2SMHCACHBBBXBEBBGDBCJJ2GHC1JID",
      "BDxAK1HGBEHJAGBD1NNACIN2IHJ5W1BOJGIB1FOABFKyD-ZAHACA2LGBBB1FVAJJGFBBB1EEBBABAHJ9WSCDJOB",
      "1DIBDW2WAP1RNsw3G3OBEL6D2iM3CN11PRFZ3swFiG6lZzMCDJ1mGhYH+BJE2QBJGzHAK1PHOKJBGBUFSdQ1Z6G",
      "2w3F2KF1XLM2ADy5vXI16V1JJ8nHDBGBBB9CPAzCCAODIcL28E3KFMDIHJCACA3rA7ZGdT4y3T1y7VK1GC1xFCW",
      "BHzE1yV2BDA3wTMTM2WJY4H2UB2GBBCACBCDBLBABGB2ABDCHBGBxBDBEBADGBaTC9DChR1XD1SHBNBG13U+GF8",
      "F1z4S1MKGCJEBaAzS1LEJFAeQxEJ6WzCKEAfAGBDBBBOB6ECI1Q2DHAEJEBoR2D2M1y6CDBwBBBACABJBDBABAG",
      "AEABABABCBBBACABABABABABBBACDBGBDBDBABJBQFCBEBQ1UB8O1LE3DMOCOBOB1EK5N1YyN1LEIHBOF4wuXEQ",
      "DMD3WE2+GLEAPLE1XIJG1HIzCLEB1+aTMNCMDJF1XHOCKGIH4SB3F10G19m-1A41ZG6zC5kBO79QPjN2dCgz1fC",
      "4qKF42-"]),
   (["Grapheme_Extend", "Gr_Ext"],
    String.join
     ["oA3P8TG8H1MBABBBBBA2IK1QUQA3FGCFCBBD1DA+w2xK1wIJAYDBIBCBE1LC1xI1KXB-1XABAEHEADGKBzA1wAB",
      "ACDIAJAKBwACB1ZAEBEBCCDA+BDALB1ZAEEBBEAUBWFBA1wABBBDIAHCKB+A1xABAMAJA1IADA1XABCFCBDHBLB",
      "zA1wACBBADCBDHBLByB1ZBBACDIAJAKBzA2IAEACCBAIA2RACGMH3CACILG2JBxABABA1XNBEBBFKB1DJA3GDBF",
      "BBCBZBECQDNACBGAPAl-CtSDyCzB+B2ABBGIACKJA1NCBA3VB1CA3WCEBJAGC6xBCA1wABGBABACHGJCA1Q+1RD",
      "1QJEC1GIMB1ADCF1YABBDABE1YHCB4YCBMBGEAGADB6G1-gMA6D1A2v+C4NA3A-hKF3JBteUDBJ1AB2QB8QADAE",
      "AZBFA4XBwRNA1GHZKBA1MC1QACDCBCA1EA2DFCBCBMAIA1PA1TABCCBFBBA1KBIA7OACAEAjpQAnBPQPbOBizA7",
      "CA4VE1kGCBBFD1ICEA5FBhzD2BE9zB2PD2GK1RD3xA1WO1JACBKC1RDCBHA1zC1EEBH1+AMB1UIBAIDCA2-CCDG",
      "ACA4zADHVB1ZBBABAMAJAOGDE2DACFBACABCECBAOB2VHCCBAXA2RACFBACABBBB7LACDGBBBxB2VHCABB3KABA",
      "CH3FABACDBE8DIBB7VAKDEA4QDCBEA1AJ1IFCDIAJFCC1OMBBcWGBFBA2SVCGBBBB3wFDABBBGBA2IBDABAaxBL",
      "B1UEFCXA57FAGOb6ILDC2eAE1xG10YA1-D2RALBj5LB4jB1NCWg+EDFIHCG+D4UC1tx1WE1RIAOAWEBO1aQGBQC",
      "GBBBE3EA5AGbXA1zDfyD7+BnAG3NGo5mV2-4A7P"]),
   (["Grapheme_Link", "Gr_Link"],
    String.join
     ["2aNA3-A3-A3-A3-A3-A3-A3-A3NBQA3yA3PA3-A6JA5UB1mZB+A4zAkNA7DA3FB2GB4cLAukGA1FA4XA4OA3MA9",
      "VA7WAniRA1gGA1JAOA1ZA3ZB4LA3UA5UA3CA4AC3RA3-A7yA3-A3WA3UA8NA8DB5BA2TASA2RAdFA8EB2RAdJBg",
      "fMA"]),
   (["Hex_Digit", "Hex"],
    "1QJHFwF1vlJJHFwF"),
   (["Hyphen"],
    "1NA3-A16yA4jxA20JB3gFAnDA1jbHA5JA2XA"),
   (["IDS_Binary_Operator", "IDSB"],
    "bvQBCJfRA"),
   (["IDS_Trinary_Operator", "IDST"],
    "bvSB"),
   (["IDS_Unary_Operator", "IDSU"],
    "bv+B"),
   (["ID_Compat_Math_Continue"],
    "5SBFA7tWADKBObTAEAWA3d5CAZA-AZA-AZA-AZA-AZA"),
   (["ID_Compat_Math_Start"],
    "8gCAEAWA3d5CAZA-AZA-AZA-AZA-AZA"),
   (["ID_Continue", "IDC"],
    String.join
     ["1QJHZEABZ1PAKABACAFWB+BeJELOEHABAR3UBBCDBAGEBABTB2SB4KBEC5FB1FCAG1II1MBABBBBBAIwEDzKF2J",
      "E3FBHCJBSCAQ1wC3EO1VEACAC1NSxEKFXBFI2KB4ACJBSBHCBCVBGBADDCICBCDIAEBBECLKABACCBFEBCVBGBB",
      "BBBBCABEEBCCDAHDBAHPLCBIBCBVBGBBBECJBCBCCAPDCJJGBCBHCBCVBGBBBECICBCCHCEBBECJBAQBBFDCBDD",
      "BBABBDBDCDLEEDCBDCAGAOJQMBCBWBPCIBCBDHBBCCACDCJQDBHBCBWBJBECIBCBDHBGBBDCJBCMMBCB1SBCBEF",
      "DHECJKFBCBRDXBIBACGDAEFBABHGJCBN1ZFOBJ1HBBABEBXBABWCEBABGBJCD1AAXBGJLABABAEJB1DETBRB1DJ",
      "A1Z2JG2NC1FBAFAC1KBaMBDCGBABDC1IBDC1ABDCGBABDCOB1YBDC2CCCJIOPQ2VCFDjLCQBZF2KDKHVJVLTMMB",
      "CBBM2TDAEBCJ1BCBKG2YH1KF2FK+BLELK1HCEL1LEZGK1FxE1+ByCKGJNAINBP1R2MDJRIM3TM1XIJD1QCKF1KC",
      "CQCB1GFgVCFC1FCFCHBABABAB+C1UBGBADCBGDDCFEMFCBGPB1RBTAyANAQM1TMEADLRAEACJBACFGABABABPCD",
      "FEEAR1I2jX7EGIM1FBAFAC1XHAPXJGBGBGBGBGBGBGBGB-gFCZOBECEE2VCGB2+F1KB2zR-1QPgA6d-2AlkM2D1",
      "NC8MDxU1PEJB3S1FIC3GC2CCBBABHV1VEAT1TM2FKJGXDAB1QC1DMyD2AOKG+B1WJNCJGWD2IYCCPCEKFCFCFJG",
      "BGB1KBNG3wBBCJGatDMWE1Q88EbNC3J1GGMEFLBMBEBABBBBB3L1BbKS1-C1V1ILEPQPDBYC1AEB4GTJHZEABZK",
      "2ZDFCFCFCC1DLBZBSBBBOCN1C3w2F1U4IA4CyD1QPA--NzF1KFzC1DEHBE1K4zCJG1DE1DE1HI1TMKBOBGBBBKB",
      "OBGBBD1TM9WJVKHYFB1JBI2FFCAB1LBBDACWKWJ+2BSBBKVKZ2G1XGB2ADBBFHBCByCCEA1AyDy1DHBzZ1VKVKS",
      "NR3O2I1X1SN1SN1HIJG1FDEBW7w1JBBDBQC1X1AKAI1A-V1KUxWJ2G-PJ1xHANYHJG1UBJEDI1DCAJ2EEDBMBA1",
      "DRB1EGD1+GBABDBOBJH1wFJGDBHCBCVBGBBBEBJCBCCCAGAFGCGDELJBACAB1FBJBACABDBHNBz2KFJED+2FBAI",
      "J5G1VCIXF1C2ADALJ1G1YHJGTywCOEJGG5Z1w3F2JVHCACHBBBzBBCIMJ2GHC1NCHBBx1+IAI2JDAS2I6H1APJG",
      "IB1MBIPJYzCVBN2JGBBB1LDABBBIIJGFBBB1EBBBFHJ9WWJQB1IDENK2VA2PsZ3G3OR6D2iM3AP11PQVK3swFiG",
      "6lZ1Z1mGhYH+BJG2OBJGzCEL1WJDMJJUFSdQ1MDJ6G1-4A2KE1YHQ2ABBBLBO5vXI16V1JJ8nHDBGBBB9CPAzCC",
      "AODIcL28E3KFMDIHJDB42RJgG1NCWg+EDFIHCG+D4UCdx2UB2GBBCACBCDBLBABGB2ABDCHBGBxBDBEBADGBaTC",
      "YBYB+BYB+BYB+BYB+BYBHC1RgA1WE1RIAOAWEBO12Q+GF6VGBQCGBBBEF1z1BA3Q1MDNCJEAaB+R1ZeW1J6W1Kf",
      "FGBDBBBOB6ELG1J2LEJ15GDBwBBBACABJBDBABAGAEABABABCBBBACABABABABABBBACDBGBDBDBABJBQFCBEBQ",
      "39UJ10G19m-1A41ZG6zC5kBO79QPjN2dCgz1fC4qKF42-lnaQ7P"]),
   (["ID_Start", "IDS"],
    String.join
     ["2BZGZ1PAKAEAFWB+BeJELOEHABA4BEBBCDBAGABCBABTB2SB4KI5FB1FCAG1I2HwED1N1K1DBB3CBAPBHBKCCAQ",
      "ABzz2YLAY1AJBEAFVEAJADAXYHKFXBFR1J1w1VDASAHJPPEHCBCVBGBADDDAQANBBCOBKAIFEBCVBGBBBBBB-DB",
      "ATCQIBCBVBGBBBEDASAPBXALHCBCVBGBBBEDA+BBCPARABFDCBDDBBABBDBDCDLWA1UHBCBWBPDAwCCACB+AEHB",
      "CBWBJBEDA-BBBPBRIBCB1ICAQAFCICYFFRDXBIBACG1w1PBBMG1wBBABEBXBABJBBJACEBAVD1AA1-HB1DxE3T1",
      "KUAQFEDDADBHCEMMAR1FBAFAC1KBaMBDCGBABDC1IBDC1ABDCGBABDCOB1YBDC2C1FPQ2VCFDjLCQBZF2KDKHRN",
      "SOROMBCP1T1DAEA2D2YH1IBAF2FK+1RzCEL1LEZ1WWJ1U2SA2z1ORH1WzNBK1Lw1D1JCK1DCKF1KCC1JDBFBBDA",
      "F5-2A8VCFC1FCFCHBABABAB+C1UBGBADCBGDDCFEMFCBG3UANAQM3FAEACJBACFGABABABPCDFEEAR1I2jX7EGD",
      "DBM1FBAFAC1XHAQWJGBGBGBGBGBGBGBGhGCZIHECEE2VEEB2ZBDF1KB2zR-1QPgA6d-2AlkM2D1NC8MDPKBU1OQ",
      "+C2P1HIC3GC2CCBBABHVPBCBDBWz1TO1R1+FDABBLxKWZyH1OyAQEBJKEB1IXCBHUWDAD1RBADBCECABAYCCKHC",
      "MFCFCFJGBGB1KBNG3SzatDMWE1Q88EbNC3J1GGMEFABJBMBEBABBBBB3L1BbKS1-C1V1IL3UEB4G1EZGZL2YDFC",
      "FCFCC1DLBZBSBBBOCN1C3w2F1U8LyD1Q1P-NzF1FKzC1DEHBE1K4zS1DE1DE1HI1TMKBOBGBBBKBOBGBBD1TM9W",
      "JVKHYFB1JBI2FFCAB1LBBDACWKWJ+2BSBBKVKZ2G1XGB2AAPDBCBy1KyDy1DHBxx1VKVKSNR3O2I1X1SN1SN1D1",
      "GxJW7w1JGBQC1xyKAIV1KR1OUxWM1U1ZBCAN1M1AYw1DzACAI1CDAM1PODVABA1DRBYTB1-GBABDBOBJH1O1GHC",
      "BCVBGBBBEDASAME+JBACAB1FBAZABA1M1USDUC+1PUBBA5Y1O1JD1E1PUA1x1KNA2Hw1FG5Z1L3U1--HCACHBBB",
      "XPABA2+HC1GQABAyAK1HHAVAL1NTAS2I6H1A-IB1ERA1Rz3QGBBB1FVAZFBBB-OAaHSPABMB1B3yA2PsZ3G3OR6",
      "D2iM3AP11PRFZ3swFiG6lZz1nChYH+R2ORzS1PQD-UFSdQ1M6T1-4A2KFA2CM2ABBAy5vXI16V1JJ8nHDBGBBB9",
      "CPAzCCAODIcL28E3KFMDIHJ5rG2UB2GBBCACBCDBLBABGB2ABDCHBGBxBDBEBADGBaTCYBYB+BYB+BYB+BYB+BY",
      "BH1pU+GF8F1z4S1MKGQAaBzS1LfEx7EzCAfPGBDBBBOB6E1x2DHA15UDBwBBBACABJBDBABAGAEABABABCBBBAC",
      "ABABABABABBBACDBGBDBDBABJBQFCBEBQ4aE19m-1A41ZG6zC5kBO79QPjN2dCgz1fC4qKF42-"]),
   (["Ideographic", "Ideo"],
    "c0GBZIOCuF6d-2Akf-m8AbNC3Jt8KAx5vXI16V1JJ93HcLj8E19m-1A41ZG6zC5kBO79QPjN2dCgz1fC4qKF42-"),
   (["Join_Control", "Join_C"],
    "80MB"),
   (["Logical_Order_Exception", "LOE"],
    "3iAE3xE2nQCCA147wBCABB"),
   (["Lowercase", "Lower"],
    String.join
     ["3BZ1PAKAEA1EXBHBABABABABABABABABABABABABABABABABABABABABABABABABABABABBBABABABABABABABB",
      "BABABABABABABABABABABABABABABABABABABABABABABACABABCCABACADBEACADCCACABABACABBBACADABAC",
      "BCCGACACABABABABABABABABBBABABABABABABABABBCABADABABABABABABABABABABABABABABABABABABABA",
      "BABABABABABABABABABGCACBBAEABABABAB2EB1DHB+E3AA1LABADACDSAx1CBBDCBABABABABABABABABABABA",
      "BEBACACB1T1PBABABABABABABABABABABABABABABABABAJABABABABABABABABABABABABABABABABABABABAB",
      "ABABABABABABACABABABABABABBBABABABABABABABABABABABABABABABABABABABABABABABABABABABABABA",
      "BABABABABABABABABABABABABABABABABABA1Q1I2qH1KBDnYF24CIBA3V5-2BABABABABABABABABABABABABA",
      "BABABABABABABABABABABABABABABABABABABABABABABABABABABABABABABABABABABABABABABABABABABAB",
      "ABABABABABABABABABABABABABABABABABABIBABABABABABABABABABABABABABABABABABABABABABABABABA",
      "BABABABABABABABABABABABABABABABABABABABABABABABIIFKHIHIFKHIHINCHIHIHIEBBGADCBBIDCBIHKCB",
      "B3ZANAQM3NADBDAxAEAEACBIDEA1BPEAqLZ1qG1PBADBBABABAEABBBHDABABABABABABABABABABABABABABAB",
      "ABABABABABABABABABABABABABABABABABABABABABABABABABABABABABABABABABABBHABAEAM1FBAFAu8TAB",
      "ABABABABABABABABABABABABABABABABABABABABABATABABABABABABABABABABABABABC4FABABABABABABCB",
      "ABABABABABABABABABABABABABABABABABABABABABABABABABABABABABABJBABACABABABABAEABACABCBABA",
      "BABABABABABABABAFAFABABABABABABABAEABACADABABABABABAWCBABCpV1KBNG2PjqAGME11JZ16N1H4I1D4",
      "xKBOBGBBeDACCB1JBI18F1S3zV2pw-lcA-pcwZwGBRwZwDBABGBKwZwZwZwZwZwZwZwZwxyYBFwYBFwYBFwYBFw",
      "YBFBA1pUJBTGF8F1z25U1B"]),
   (["Math"],
    String.join
     ["1LAQC-AzABA1NAEA1FA-AmYCCAwBCCgPC6gNAxCLADANAODVELE2BMEADBEESAEACJBACFGADBCBBCBFDNBA2EX",
      "BFBBEBE-BAGBO8LIDUB2wA+wBAYALGdzBMJEFEBCBDEOABACFLHFB1ZABAzDJCaQ1-8Af-1QUCF1juyApXFBA5C",
      "AQCzABAzABA4DAGD3dBB1hjQ2UB2GBBCACBCDBLBABGB2ABDCHBGBxBDBEBADGBaTC9DC1R5gADBwBBBACABJBD",
      "BABAGAEABABABCBBBACABABABABABBBACDBGBDBDBABJBQFCBEBQ1UB"]),
   (["Modifier_Combining_Mark", "MCM"],
    "1iUBCA4DAGADBfBBBCDA-A"),
   (["Noncharacter_Code_Point", "NChar"],
    String.join
     ["1veQ-gOB1vv+B1vv+B1vv+B1vv+B1vv+B1vv+B1vv+B1vv+B1vv+B1vv+B1vv+B1vv+B1vv+B1vv+B1vv+B1vv+",
      "B"]),
   (["Other_Alphabetic", "OAlpha"],
    String.join
     ["qFAzMiANBABBBBBA2IK1QMBGQA3FGEDCBEA1DA+P3GK3FBDIBCBD3KA1yLDGGT1WBCOBBFCKBzC1wGCBCBKAKBz",
      "C1wEEBCBEA+BDALC1wHBCBBVBWCEC1wGCBCBJBKB+A1xEDCBCKA1IE1ZGBCBCIBLBzC1wGBCBCIBLBPAMD1wGBC",
      "BCKAKBzC2LFBABHSB1zACGSA3DACFBBQA5DSJKB1D3OLBACDXDECBCCGDDNLBAKD1jUB+B+B+B2CS5yB1CA3WLE",
      "I6+E1ZJCT2KBLC1RE1QO1yC+ICB1ZK1SScy1B1mB1T27W-u3UH1CBbCAIAXE2YB1SPBA1ZA1GEyL1ND1QL1FA2D",
      "NMAIB1NC1SABCCBFA1MEFA7NHjpTA22XE1kGCBBFDoUD2BAaBB2PA8DC1VN1NBLC1NIJA1zC1ELSB1ZC1QMOB2y",
      "ICAGACA4zJXD1wGCBCBKAKB2UIBACABDBB3HMBC3KR7NGCGzB2SOBA3KK3HN8BM7XFBBCBDABA4OGCFEAyJ1KEB",
      "DSK1ONcXHBG2TVBN3wFDABBBCBADA2CEBBBDayDJBBA1QGDCgezQ3hAAB1WHD2zBj5MA8rBGBQCGBBBE3EA25XA",
      "1vIZGZGZ"]),
   (["Other_Default_Ignorable_Code_Point", "ODI"],
    "qPA3gPB1iTB25PA47+A1jhxA2PIq00HABz3A3-7Q3gP"),
   (["Other_Grapheme_Extend", "OGr_Ext"],
    String.join
     ["2d+AYAbGAYA3GAYA7IABAEBBBJB3HAYA3XAPA29VA+A10AAFABAFB3FA2HB10YA41BBu9DA3MAlezB4hAA3UA8I",
      "AOAJA3AAJACABCFA7AAMA7RA8GAjZAMA1gDAk5OBobTBGFoblN2-"]),
   (["Other_ID_Continue", "OIDC"],
    "5XAmPA3vBI1jIA1hRB47NA1jjJA"),
   (["Other_ID_Start", "OIDS"],
    "64FB24RAVA3rMB"),
   (["Other_Lowercase", "OLower"],
    "5KAPAfVIHB+E3AA1UA3cBA31P1+NA1C1ElRANAQM6TPqQZ1sSBug+B6SA4BCDBrCDJAn0WACCB1JBI1m3V1z"),
   (["Other_Math", "OMath"],
    String.join
     ["2+ArRCCAwBCB71AAxCLA1ADYBOB2BMEADBEESAEACJBADEGADBCBBCBFDDFE2LECDBBBBBABECBEBERCBBABGBA",
      "GB9CD5IBBAYARAdzBMIFEFBCBDEOABACFYB1ZABAzDJBaWB-JcTV1-D1AB1l3DABAEA6TABA1l6B2UB2GBBCACB",
      "CDBLBABGB2ABDCHBGBxBDBEBADGBaTCYBYB+BYB+BYB+BYB+BYBHC1R5gADBwBBBACABJBDBABAGAEABABABCBB",
      "BACABABABABABBBACDBGBDBDBABJBQFCBEBQ"]),
   (["Other_Uppercase", "OUpper"],
    "8bAPqGZ3j3AZGZGZ"),
   (["Pattern_Syntax", "Pat_Syn"],
    "1BOKGwDBAwD1CGBABBBABBEAEADAXA-A7oYXIOCSBJ9RmP5AjV+13LgA3-cBCEYPA1j8NB8FB"),
   (["Pattern_White_Space", "Pat_WS"],
    "JESA3EA7sIBYB"),
   (["Prepended_Concatenation_Mark", "PCM"],
    "1gAF6XA1RAcAB2QA21uwAPA"),
   (["Quotation_Mark", "QMark"],
    "1CAEA4DAPA7qyHZB3gHAeJDNC1jhBD5zAEA2wB"),
   (["Radical"],
    "bkAZB2YM6V"),
   (["Regional_Indicator", "RI"],
    "3sfGZ"),
   (["Sentence_Terminal", "STerm"],
    String.join
     ["1BAMAQA1aJA4TC5UA1LC7WA1zABADB9FB1nEBoWAEBoFA6GB4zB1NAFA9wBbCD5CBKBCBzC5xB2BBtEAXBJC35P",
      "C9SANAWBdNAt7yA8OB7DADAb+B2WB2-A4YB4TC4QB7ZAkhGACB1xADB5JAMAQA2BA2nUB17zE1MD5zB3VD3-C4B",
      "BGAQB2YBBB3MA9KB3VBbVBFO3JB7ZCgFABA7xB2XBdEBlUB2KBipJB4FA2BBLAhJB9IAjgGA7fIA"]),
   (["Soft_Dotted", "SD"],
    String.join
     ["3JB6EA8ZA+A1UAUAaAA3CABA68JA1TANADA4EA4zAdFA6WB2pSA39tFB1SB1SB1SB1SB1SB1SB1SB1SB1SB1SB1",
      "SB1SB24GA9RBwA"]),
   (["Terminal_Punctuation", "Term"],
    String.join
     ["1BAKABALBDAp+AIAgBA1ZA2IAOABC5UA1LKBA7LB1WFBH-A8FB17UB5MAEF9XBoVHoFA3yC2HB4zCDA1HDCB9wB",
      "bCD5CBKBBCzC5xE1+BtEAXBJC35PC9SANAEAKABBDBdMBt7xB8NC7DEb+B2WB2-A4XC4TC3-AQB7ZAkhGACB1ZC",
      "BD5JAKABALBDA2BACA11wA1QA14GA6HA9WB4YF2EF2ZDtYE1MD5zG3QD3-C4BBGAQB2YE3MA9KB3VCMBbGDDO3J",
      "B7ZCgFABA7xB2XBEBc+C1NAkFB2KB19LEhfZB4FA2BCKAhJB9HBjgGA7fHD"]),
   (["Unified_Ideograph", "UIdeo"],
    "d0A6d-2Akf-mgOBBABBKABABBCC21eW19m-1A41ZG6zC5kBO79QPjN4dC4qKF42-"),
   (["Uppercase", "Upper"],
    String.join
     ["2BZ3FWBG1BABABABABABABABABABABABABABABABABABABABABABABABABABABABACABABABABABABABACABABA",
      "BABABABABABABABABABABABABABABABABABABABABBBABADBBABBBCCDBBBCDBBBBABABBBACABBBCBABBDAHAC",
      "ACACABABABABABABABACABABABABABABABABACACABCBABABABABABABABABABABABABABABABABABABABABABA",
      "BABABABABABABAHBBBCABDBABABABA9BABADAIAGABCBABBBQBI1DACCDABABABABABABABABABABABAFACABBC",
      "1S1QABABABABABABABABABABABABABABABABAJABABABABABABABABABABABABABABABABABABABABABABABABA",
      "BABABBBABABABABABACABABABABABABABABABABABABABABABABABABABABABABABABABABABABABABABABABAB",
      "ABABABABABABABABABABABABABAC1F2qJ1FBAFAmS2V24TAG1KCCaAABABABABABABABABABABABABABABABABA",
      "BABABABABABABABABABABABABABABABABABABABABABABABABABABABABABABABABABABABABABABABABABABAB",
      "ABABABABABABABABABABABABABABAJABABABABABABABABABABABABABABABABABABABABABABABABABABABABA",
      "BABABABABABABABABABABABABABABABABABABABAJHIFKHIHIFLABABABAIH2IDMDMDMELD8GAEADCCCCADEGAB",
      "ABABDCDKBFAwPTApSZ1pQ1P1QABCCABABABDBACAICBABABABABABABABABABABABABABABABABABABABABABAB",
      "ABABABABABABABABABABABABABABABABABABABABABABABABABABAIABAEAuaNABABABABABABABABABABABABA",
      "BABABABABABABABABABATABABABABABABABABABABABABABA4HABABABABABABADABABABABABABABABABABABA",
      "BABABABABABABABABABABABABABABABABABABAKABABBBABABABAEABACABADABABABABABABABABABABEBEBAB",
      "ABABABABABABDBABBDAFABABABAYAlpLZ16F1H4I1D4yKBOBGBB1nK1S4zV2pw-lcA-pdAZwZwZwABBCACBCDBH",
      "wZwBBDCHBGxBBDBEBADGxZwZwZwZwZwZ+Y1BY1BY1BY1BY1BA49V1B20OZGZGZ"]),
   (["Variation_Selector", "VS"],
    "60LCBA1pfQPq0nQ7P"),
   (["White_Space", "space", "WSpace"],
    "JESA3EAwA5e-A2b-KzBFA1PA3tAA"),
   (["XID_Continue", "XIDC"],
    String.join
     ["1QJHZEABZ1PAKABACAFWB+BeJELOEHABAR3UBBDCBAGEBABTB2SB4KBEC5FB1FCAG1II1MBABBBBBAIwEDzKF2J",
      "E3FBHCJBSCAQ1wC3EO1VEACAC1NSxEKFXBFI2KB4ACJBSBHCBCVBGBADDCICBCDIAEBBECLKABACCBFEBCVBGBB",
      "BBBBCABEEBCCDAHDBAHPLCBIBCBVBGBBBECJBCBCCAPDCJJGBCBHCBCVBGBBBECICBCCHCEBBECJBAQBBFDCBDD",
      "BBABBDBDCDLEEDCBDCAGAOJQMBCBWBPCIBCBDHBBCCACDCJQDBHBCBWBJBECIBCBDHBGBBDCJBCMMBCB1SBCBEF",
      "DHECJKFBCBRDXBIBACGDAEFBABHGJCBN1ZFOBJ1HBBABEBXBABWCEBABGBJCD1AAXBGJLABABAEJB1DETBRB1DJ",
      "A1Z2JG2NC1FBAFAC1KBaMBDCGBABDC1IBDC1ABDCGBABDCOB1YBDC2CCCJIOPQ2VCFDjLCQBZF2KDKHVJVLTMMB",
      "CBBM2TDAEBCJ1BCBKG2YH1KF2FK+BLELK1HCEL1LEZGK1FxE1+ByCKGJNAINBP1R2MDJRIM3TM1XIJD1QCKF1KC",
      "CQCB1GFgVCFC1FCFCHBABABAB+C1UBGBADCBGDDCFEMFCBGPB1RBTAyANAQM1TMEADLRAEACJBACFGABABABPCD",
      "FEEAR1I2jX7EGIM1FBAFAC1XHAPXJGBGBGBGBGBGBGBGB-gFCZOBECEE2VCBCCB2+F1KB2zR-1QPgA6d-2AlkM2",
      "D1NC8MDxU1PEJB3S1FIC3GC2CCBBABHV1VEAT1TM2FKJGXDAB1QC1DMyD2AOKG+B1WJNCJGWD2IYCCPCEKFCFCF",
      "JGBGB1KBNG3wBBCJGatDMWE1Q88EbNC3J1GGMEFLBMBEBABBBBB3L1B4KG6ZS1-C1V1IJGPQPDBYC1BABADABAB",
      "ABAB3zTJHZEABZK2ZDFCFCFCC1DLBZBSBBBOCN1C3w2F1U4IA4CyD1QPA--NzF1KFzC1DEHBE1K4zCJG1DE1DE1",
      "HI1TMKBOBGBBBKBOBGBBD1TM9WJVKHYFB1JBI2FFCAB1LBBDACWKWJ+2BSBBKVKZ2G1XGB2ADBBFHBCByCCEA1A",
      "yDy1DHBzZ1VKVKSNR3O2I1X1SN1SN1HIJG1FDEBW7w1JBBDBQC1X1AKAI1A-V1KUxWJ2G-PJ1xHANYHJG1UBJED",
      "I1DCAJ2EEDBMBA1DRB1EGD1+GBABDBOBJH1wFJGDBHCBCVBGBBBEBJCBCCCAGAFGCGDELJBACAB1FBJBACABDBH",
      "NBz2KFJED+2FBAIJ5G1VCIXF1C2ADALJ1G1YHJGTywCOEJGG5Z1w3F2JVHCACHBBBzBBCIMJ2GHC1NCHBBx1+IA",
      "I2JDAS2I6H1APJGIB1MBIPJYzCVBN2JGBBB1LDABBBIIJGFBBB1EBBBFHJ9WWJQB1IDENK2VA2PsZ3G3OR6D2iM",
      "3AP11PQVK3swFiG6lZ1Z1mGhYH+BJG2OBJGzCEL1WJDMJJUFSdQ1MDJ6G1-4A2KE1YHQ2ABBBLBO5vXI16V1JJ8",
      "nHDBGBBB9CPAzCCAODIcL28E3KFMDIHJDB42RJgG1NCWg+EDFIHCG+D4UCdx2UB2GBBCACBCDBLBABGB2ABDCHB",
      "GBxBDBEBADGBaTCYBYB+BYB+BYB+BYB+BYBHC1RgA1WE1RIAOAWEBO12Q+GF6VGBQCGBBBEF1z1BA3Q1MDNCJEA",
      "aB+R1ZeW1J6W1KfFGBDBBBOB6ELG1J2LEJ15GDBwBBBACABJBDBABAGAEABABABCBBBACABABABABABBBACDBGB",
      "DBDBABJBQFCBEBQ39UJ10G19m-1A41ZG6zC5kBO79QPjN2dCgz1fC4qKF42-lnaQ7P"]),
   (["XID_Start", "XIDS"],
    String.join
     ["2BZGZ1PAKAEAFWB+BeJELOEHABA4BEBBDCBAGABCBABTB2SB4KI5FB1FCAG1I2HwED1N1K1DBB3CBAPBHBKCCAQ",
      "ABzz2YLAY1AJBEAFVEAJADAXYHKFXBFR1J1w1VDASAHJPPEHCBCVBGBADDDAQANBBCOBKAIFEBCVBGBBBBBB-DB",
      "ATCQIBCBVBGBBBEDASAPBXALHCBCVBGBBBEDA+BBCPARABFDCBDDBBABBDBDCDLWA1UHBCBWBPDAwCCACB+AEHB",
      "CBWBJBEDA-BBBPBRIBCB1ICAQAFCICYFFRDXBIBACG1w1PBANG1wBBABEBXBABJBAKACEBAVD1AA1-HB1DxE3T1",
      "KUAQFEDDADBHCEMMAR1FBAFAC1KBaMBDCGBABDC1IBDC1ABDCGBABDCOB1YBDC2C1FPQ2VCFDjLCQBZF2KDKHRN",
      "SOROMBCP1T1DAEA2D2YH1IBAF2FK+1RzCEL1LEZ1WWJ1U2SA2z1ORH1WzNBK1Lw1D1JCK1DCKF1KCC1JDBFBBDA",
      "F5-2A8VCFC1FCFCHBABABAB+C1UBGBADCBGDDCFEMFCBG3UANAQM3FAEACJBACFGABABABPCDFEEAR1I2jX7EGD",
      "DBM1FBAFAC1XHAQWJGBGBGBGBGBGBGBGhGCZIHECEE2VGCB2ZBDF1KB2zR-1QPgA6d-2AlkM2D1NC8MDPKBU1OQ",
      "+C2P1HIC3GC2CCBBABHVPBCBDBWz1TO1R1+FDABBLxKWZyH1OyAQEBJKEB1IXCBHUWDAD1RBADBCECABAYCCKHC",
      "MFCFCFJGBGB1KBNG3SzatDMWE1Q88EbNC3J1GGMEFABJBMBEBABBBBB3L1B4KG6ZS1-C1V1IJ3XABADABABABAB",
      "3z1EZGZL1XC+DFCFCFCC1DLBZBSBBBOCN1C3w2F1U8LyD1Q1P-NzF1FKzC1DEHBE1K4zS1DE1DE1HI1TMKBOBGB",
      "BBKBOBGBBD1TM9WJVKHYFB1JBI2FFCAB1LBBDACWKWJ+2BSBBKVKZ2G1XGB2AAPDBCBy1KyDy1DHBxx1VKVKSNR",
      "3O2I1X1SN1SN1D1GxJW7w1JGBQC1xyKAIV1KR1OUxWM1U1ZBCAN1M1AYw1DzACAI1CDAM1PODVABA1DRBYTB1-G",
      "BABDBOBJH1O1GHCBCVBGBBBEDASAME+JBACAB1FBAZABA1M1USDUC+1PUBBA5Y1O1JD1E1PUA1x1KNA2Hw1FG5Z",
      "1L3U1--HCACHBBBXPABA2+HC1GQABAyAK1HHAVAL1NTAS2I6H1A-IB1ERA1Rz3QGBBB1FVAZFBBB-OAaHSPABMB",
      "1B3yA2PsZ3G3OR6D2iM3AP11PRFZ3swFiG6lZz1nChYH+R2ORzS1PQD-UFSdQ1M6T1-4A2KFA2CM2ABBAy5vXI1",
      "6V1JJ8nHDBGBBB9CPAzCCAODIcL28E3KFMDIHJ5rG2UB2GBBCACBCDBLBABGB2ABDCHBGBxBDBEBADGBaTCYBYB",
      "+BYB+BYB+BYB+BYBH1pU+GF8F1z4S1MKGQAaBzS1LfEx7EzCAfPGBDBBBOB6E1x2DHA15UDBwBBBACABJBDBABA",
      "GAEABABABCBBBACABABABABABBBACDBGBDBDBABJBQFCBEBQ4aE19m-1A41ZG6zC5kBO79QPjN2dCgz1fC4qKF4",
      "2-"])]

/-- The code points that have a property. -/
def find? (normalized : String) : Option RangeTable :=
  (properties.find? fun (names, _) => names.any (sameName · normalized)).map fun (_, text) =>
    RangeTable.ofText text

end BinaryProperty

/-- Characters that count as letters. -/
def alphabetic : RangeTable := (BinaryProperty.find? "alphabetic").getD .empty

/-- Characters that count as blank. -/
def whiteSpace : RangeTable := (BinaryProperty.find? "whitespace").getD .empty

end SyscallFilter.Unicode
