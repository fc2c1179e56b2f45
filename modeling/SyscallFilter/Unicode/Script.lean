import SyscallFilter.Unicode.RangeTable

/-! # Scripts and script extensions -/

namespace SyscallFilter.Unicode

namespace Script

/-- The names of each script, and the code points used with it. A script's number is its place in this
list, counted from one; number zero is for code points without a script. -/
def extensions : List (List String × String) :=
  [(["Adlam", "Adlm"],
    "1g-A1AA6gOA3fRA3el+2LEJEB"),
   (["Ahom"],
    "25oAwCOEW"),
   (["Anatolian_Hieroglyphs", "Hluw"],
    "2h0AiG"),
   (["Arabic", "Arab"],
    String.join
     ["1gAEB6WB1B2Q1P7Q+BBF2KBy5qPA3fRA1j8O3SQdyC1VHA1AP3QEB4GvDx2rE+2DC1XD1noADBwBBBACABJBDBA",
      "BAGAEABABABCBBBACABABABABABBBACDBGBDBDBABJBQFCBEBQ1UB"]),
   (["Armenian", "Armn"],
    "oIAhI1FC1RCC1tcDE"),
   (["Avestan", "Avst"],
    "5XAbbYB1n6O1VDG"),
   (["Balinese", "Bali"],
    "6oA2MB1R"),
   (["Bamum", "Bamu"],
    "19lA2X1g8IhY"),
   (["Bassa_Vah", "Bass"],
    "2qmQzCF"),
   (["Batak", "Batk"],
    "6uA1TID"),
   (["Bengali", "Beng"],
    "lyA1kUBRBwDBHCBCVBGBADDCICBCDIAEBBECY4mRABACBBAIAIACAEACC12vZA"),
   (["Bhaiksuki", "Bhks"],
    "270AIB1MBNKy"),
   (["Bopomofo", "Bopo"],
    "mHABCNAQBb8VCEJBMKDCAGA6DAJ1K3Q-1j4FB8wE"),
   (["Brahmi", "Brah"],
    "240A2NE1DJA"),
   (["Braille", "Brai"],
    "a0A7-"),
   (["Buginese", "Bugi"],
    "6gAxCB13tPA"),
   (["Buhid", "Buhd"],
    "5pVBJT"),
   (["Canadian_Aboriginal", "Cans"],
    "50Aj-hQ2F20dwP"),
   (["Carian", "Cari"],
    "5XA7tCACA3eTA1l3O1Q"),
   (["Caucasian_Albanian", "Aghb"],
    "oEA1MA1MA20eR1TLA"),
   (["Chakma", "Cakm"],
    "2fGJ1iQJ205W1UBR"),
   (["Cham"],
    "1agA1WJNCJCD"),
   (["Cherokee", "Cher"],
    "oACBAGBWBLB43O2VCF15rS2P"),
   (["Chorasmian", "Chrs"],
    "23tQx"),
   (["Common", "Zyyy"],
    String.join
     ["A2AwFw1OBLBBBEXA-AeBCBJBADABIBABFFECT3+AGABAjzA6XAgEA1ayAcVD41HLC1AB+BJBBBGBKDKBOR1A1-1",
      "FBCCFBwBQ1JCEkZWKVs-8AjTC-B3IgAWBXCJBDBABZdCADANANAVAgRX-A1ROMD5BJF2--A6eA1-m8IZ3GCuQAO",
      "BklEJWUCLBSBD4TAB-wFwF3-GBGKEcSM1T1M1igD7ZGdT4y3T1y7VK1GC1zDQIBHzE1y6VTMTM2WxG4H2UB2GBB",
      "CACBCDBLBABGB2ABDCHBGBxBDBEBADGBaTC9DC1R53R2D2M1ymC1LE3DMOCOBOB1EK5N1YZBBN1LEIXF4wuXEQD",
      "MD3WE2+GLEAPLE1XIJG1HIzCLEB1+aTMNCMDJF1XHOCKGIH4SB3Fo10HA+2-"]),
   (["Coptic", "Copt", "Qaac"],
    "5XAiIADBBA3MB3MNa4Q3TFG8XA1l6Ix"),
   (["Cuneiform", "Xsux"],
    "280AsZ3G3OBEL6D"),
   (["Cypriot", "Cprt"],
    "208ACE1MDI1mAFCAB1LBBDACA"),
   (["Cypro_Minoan", "Cpmn"],
    "208ABbkO3C"),
   (["Cyrillic", "Cyrl"],
    "lyA2DCBABABACAFA7O9P5qQK5AA2MA3-A3vH-2DAtvy2-lsOB1ogA1z1BA"),
   (["Deseret", "Dsrt"],
    "210A2P"),
   (["Devanagari", "Deva"],
    "lyA1iD2SC1K4qQ1GBBvWA11p-J5G-sgAJ"),
   (["Dives_Akuru", "Diak"],
    "268AGCACHBBBzBBCLJJ"),
   (["Dogra", "Dogr"],
    "2bEL17mAJruG1x"),
   (["Duployan", "Dupl"],
    "5XAiPBBAYBaoXA33eD3KFMDIHJCH"),
   (["Egyptian_Hieroglyphs", "Egyp"],
    "2c0A12VK3sw"),
   (["Elbasan", "Elba"],
    "5XAiNA20fw1H"),
   (["Elymaic", "Elym"],
    "23vAW"),
   (["Ethiopic", "Ethi"],
    String.join
     ["oOA3nR2IBDCGBABDC1IBDC1ABDCGBABDCOB1YBDC2CC-DZ6fGWJGBGBGBGBGBGBGBGv9CFCFCFJGBG2f5RGBDBB",
      "BO"]),
   (["Garay", "Gara"],
    "1gMAOADA21pA1FDyIB"),
   (["Georgian", "Geor"],
    "5XA16RA2oW1FBAFAC1P2sQ1KCCswA35F1FBAFA8DA"),
   (["Glagolitic", "Glag"],
    "5XAiLABAb+ACA8BA2rRA3q+A2tF2-fDAu1LA2ecQGBQCGBBBE"),
   (["Gothic", "Goth"],
    "5XAiMBCA1IA1vv+w"),
   (["Grantha", "Gran"],
    "2aRBRBkAN46yABB+CDBvWA1sgPDBHCBCVBGBBBEBJCBCCCAGAFGCGDE32xBBA"),
   (["Greek", "Grek"],
    String.join
     ["5XAiIBCABABAKA1OACA1KHCDBAEABABCBABTB1+OP69GE1SEEE2UC9+VCFC1FCFCHBABABAB+C1UBOBNCFBSCCB",
      "I2+A6IA12h+Alew2ORA1k2-2F"]),
   (["Gujarati", "Gujr"],
    "2aRBRB8xCBIBCBVBGBBBECJBCBCCAPDCLHG179QJ"),
   (["Gunjala_Gondi", "Gong"],
    "5XA25MB24vwFBBB1EBBBFHJ"),
   (["Gurmukhi", "Guru"],
    "2aRBRB4xCBFEBCVBGBBBBBBCABEEBCCDAHDBAHQ17dZJ"),
   (["Gurung_Khema", "Gukh"],
    "2bFA2lsw1Z"),
   (["Han", "Hani"],
    String.join
     ["5XAbeIZB2YM6VwPBCBMBMBMCAGI5xA4UP1A1FJA1Q1H1Y1QPL1TA2YYKE3A+B6d-2Akf-1oAHkfYbNC3JrLB8wE",
      "s3yBMBorOR7m+B3dO19m-1A41ZG6zC5kBO79QPjN2dCgz1fC4qKF42-"]),
   (["Hangul", "Hang"],
    "48A7-7gBCEJBMOCGA6DA1V2z3R+2B+tnBykDatDMWE1Q9iJB8wE1w+DFCFCFCC"),
   (["Hanifi_Rohingya", "Rohg"],
    "1gMAOADA1AA4TA21hL1HIJ"),
   (["Hanunoo", "Hano"],
    "5pAW"),
   (["Hatran", "Hatr"],
    "227ASBBFE"),
   (["Hebrew", "Hebr"],
    "oHBkI1WIwEF1t9IZBEBABBBBBJ"),
   (["Hiragana", "Hira"],
    "c0BCEJBMQFBAEBD2VCH2wB1jaIB8wEKA1NB1c3B8+SAzCg5NA"),
   (["Imperial_Aramaic", "Armi"],
    "222AVBI"),
   (["Inherited", "Qaai", "Zinh"],
    "oPACABLBBDGCACPBBBRBEBD1fQB4ax+nT1VBABEgMB6C-1n8QPQNuPA1j8C1NCWhACRHCG+DobqS7P"),
   (["Inscriptional_Pahlavi", "Phli"],
    "22rASFH"),
   (["Inscriptional_Parthian", "Prti"],
    "22qAVCH"),
   (["Javanese", "Java"],
    "1acA2NBKEB"),
   (["Kaithi", "Kthi"],
    "2bGJ96BAuf+Jq2G2CKA"),
   (["Kannada", "Knda"],
    "2aRBRBowMBCBWBJBECIBCBDHBGBBDCJBC3uyABBGAXABA12pxF"),
   (["Katakana", "Kana"],
    "oFAzAb6zCEJBMQFBAEB2xDD2-7QP6Q1OB2X1inNB8w1+1c2QDBGBBBA8-C1SAOD"),
   (["Kawi"],
    "27oAQB1IDy"),
   (["Kayah_Li", "Kali"],
    "1a8A1P"),
   (["Kharoshthi", "Khar"],
    "22gADBBFHBCByCCEJHI"),
   (["Khitan_Small_Script", "Kits"],
    "2rvEA6oxeV1JA"),
   (["Khmer", "Khmr"],
    "5sA2zCJGJfG-"),
   (["Khojki", "Khoj"],
    "2nGJ17aAJqeGRB1O"),
   (["Khudawadi", "Sind"],
    "2bEB17mKJqjW1wFJ"),
   (["Kirat_Rai", "Krai"],
    "2raA1Z"),
   (["Lao", "Laoo"],
    "3kBBBABEBXBABWCEBABGBJCD"),
   (["Latin", "Latn"],
    String.join
     ["2BZGZ1PAMACAFWB+BeADAKABCBAJABAGExOBBBAMACCHBBB1GAFAEM8VB16KB1tIA30E1FG1QFDFMB2F1ZAH7-9",
      "PA2BANAQM2TA1ZBGAxAR1I2mX-cXAu7IHw3FD2CCBBABHVN9OAgB1KBIBDjsWG10wZGZ21FFB1JBI1lqF+GF"]),
   (["Lepcha", "Lepc"],
    "70A1XDODC"),
   (["Limbu", "Limb"],
    "2bFA3sw+BLELEADL"),
   (["Linear_A", "Lina"],
    "208H1M16M9WJVKH"),
   (["Linear_B", "Linb"],
    "200ALBZBSBBBOCN1C3wFCE1MDI"),
   (["Lisu"],
    "lyAQAb9yBt6E1PulQA"),
   (["Lycian", "Lyci"],
    "82wA1ohFy"),
   (["Lydian", "Lydi"],
    "5XAbbZA1mnOZFA"),
   (["Mahajani", "Mahj"],
    "5XA25ML17mAJq8W1G"),
   (["Makasar", "Maka"],
    "27nAY"),
   (["Malayalam", "Mlym"],
    "2aRBRBswMBCB1SBCBFEPCZ3qwAXA12pzC"),
   (["Mandaic", "Mand"],
    "1iAAf-xCA"),
   (["Manichaean", "Mani"],
    "1iAA213-1GEL"),
   (["Marchen", "Marc"],
    "273Q-CVBN"),
   (["Masaram_Gondi", "Gonm"],
    "2bEB24swGBBB1LDABBBIIJ"),
   (["Medefaidrin", "Medf"],
    "2riA2w"),
   (["Meetei_Mayek", "Mtei"],
    "1anAW6J1NCJ"),
   (["Mende_Kikakui", "Mend"],
    "3q0A6ECP"),
   (["Meroitic_Cursive", "Merc"],
    "22dAXETC1N"),
   (["Meroitic_Hieroglyphs", "Mero"],
    "82zA1q9C-"),
   (["Miao", "Plrd"],
    "2roA2KE1YHQ"),
   (["Modi"],
    "1a1QJreG2ELJ"),
   (["Mongolian", "Mong"],
    "60AZG2YH1K1sEA3uRBFD1piUM"),
   (["Mro", "Mroo"],
    "2qiA+BJEB"),
   (["Multani", "Mult"],
    "2jGJ220QGBABDBOBK"),
   (["Myanmar", "Mymr"],
    "40A4-164OA5R+3B-r2QT"),
   (["Nabataean", "Nbat"],
    "224A+II"),
   (["Nag_Mundari", "Nagm"],
    "3p6Q1J"),
   (["Nandinagari", "Nand"],
    "2bEBsAJ3vZAIAHA12pVFsbKHC1NCK"),
   (["New_Tai_Lue", "Talu"],
    "6cA1LEZGKDB"),
   (["Newa"],
    "250A2xBE"),
   (["Nko", "Nkoo"],
    "1gMAOADAdA1wCC1t9+B"),
   (["Nushu", "Nshu"],
    "2rvBAgcOcL"),
   (["Nyiakeng_Puachue_Hmong", "Hmnp"],
    "3o8A1MDNCJEB"),
   (["Ogham", "Ogam"],
    "5kAy"),
   (["Ol_Chiki", "Olck"],
    "72Q1P"),
   (["Ol_Onal", "Onao"],
    "2bEB3n3K1KEA"),
   (["Old_Hungarian", "Hung"],
    "82wACA3eTAPA1nh+1SN1SHF"),
   (["Old_Italic", "Ital"],
    "20oA1DJC"),
   (["Old_North_Arabian", "Narb"],
    "22kA-"),
   (["Old_Permic", "Perm"],
    "5XAiIAFCKAbPA1vmM1K"),
   (["Old_Persian", "Xpeo"],
    "20tA1DEN"),
   (["Old_Sogdian", "Sogo"],
    "23oA1H"),
   (["Old_South_Arabian", "Sarb"],
    "22jA-"),
   (["Old_Turkic", "Orkh"],
    "82wA3eVA1neP2I"),
   (["Old_Uyghur", "Ougr"],
    "1iAA215RA13zZ"),
   (["Oriya", "Orya"],
    "2aRBRBcxCBHCBCVBGBBBECICBCCHCEBBECR4bCAXA"),
   (["Osage", "Osge"],
    "oBACAGA2MA20aX1DE1D"),
   (["Osmanya", "Osma"],
    "214AzCJ"),
   (["Pahawh_Hmong", "Hmng"],
    "2qoA2FKJBGBUFS"),
   (["Palmyrene", "Palm"],
    "223A-"),
   (["Pau_Cin_Hau", "Pauc"],
    "26mA1Y"),
   (["Phags_Pa", "Phag"],
    "60CBBA21JA3uSAu1z1X"),
   (["Phoenician", "Phnx"],
    "228AxDA"),
   (["Psalter_Pahlavi", "Phlp"],
    "1iAA219-RHDMG"),
   (["Rejang", "Rjng"],
    "1a9Q1DLA"),
   (["Runic", "Runr"],
    "5lA2Y"),
   (["Samaritan", "Samr"],
    "20A1NCO9fSA"),
   (["Saurashtra", "Saur"],
    "1a4A2FIL"),
   (["Sharada", "Shrd"],
    "2aRA4sFABACBCA12qPFCAqaH2-"),
   (["Shavian", "Shaw"],
    "5XA20sY1P"),
   (["Siddham", "Sidd"],
    "25cA1VC1F"),
   (["SignWriting", "Sgnw"],
    "3m0AkLPEBO"),
   (["Sinhala", "Sinh"],
    "2bEB10xCBRDXBIBACGDAEFBABHGJCC3nzA1t7OT"),
   (["Sogdian", "Sogd"],
    "1iAA227P1J"),
   (["Sora_Sompeng", "Sora"],
    "246QYHJ"),
   (["Soyombo", "Soyo"],
    "26iQ2S"),
   (["Sundanese", "Sund"],
    "6sA1-8AH"),
   (["Sunuwar", "Sunu"],
    "oABBAJACAyADA264O1BOJ"),
   (["Syloti_Nagri", "Sylo"],
    "2bEB4AJ17gQ1M"),
   (["Syriac", "Syrc"],
    "oDBCBBAVACCHBBAmxAOBCA1AAKKwA4PNB1xCC8QK5cNABA"),
   (["Tagalog", "Tglg"],
    "5oAVJAVB"),
   (["Tagbanwa", "Tagb"],
    "5pVB1JMBCBB"),
   (["Tai_Le", "Tale"],
    "oABFBDA39TJ28GzCE"),
   (["Tai_Tham", "Lana"],
    "6hA1+ByCKGJGN"),
   (["Tai_Viet", "Tavt"],
    "1akA2CYE"),
   (["Takri", "Takr"],
    "2bEB17mKJriG1ZGJ"),
   (["Tamil", "Taml"],
    "2aRBRBgyBBFDCBDDBBABBDBDCDLEEDCBDCAGAOU46-A130YAqgNABA1XB34D1RNA"),
   (["Tangsa", "Tnsa"],
    "2qjQ2OBJ"),
   (["Tangut", "Tang"],
    "bvQPfPA2ffQA-5vXIn-gAI"),
   (["Telugu", "Telu"],
    "2aRBRBkwMBCBWBPCIBCBDHBBCCACDCJHI42wAXA"),
   (["Thaana", "Thaa"],
    "1gMAOBCA2AJ8W1R1tiAAKA"),
   (["Thai"],
    "lyAwA1LA1NA2mP1ZFx"),
   (["Tibetan", "Tibt"],
    "3oA2HB1DE1GB1DBOBGEB81ND"),
   (["Tifinagh", "Tfng"],
    "oCABACABAahG1XHBOA"),
   (["Tirhuta", "Tirh"],
    "2aRBRB4sMA12pzJr2G2HIJ"),
   (["Todhri", "Todr"],
    "oBACACAJABA2KA20jB1T"),
   (["Toto"],
    "lyA3nuT+"),
   (["Tulu_Tigalari", "Tutg"],
    "37GJ40CABA12pxF5xAqkOJBACAB1FBJBACABDBJBBIB"),
   (["Ugaritic", "Ugar"],
    "20sAzBA"),
   (["Vai", "Vaii"],
    "198A9L"),
   (["Vithkuqi", "Vith"],
    "21bQKBOBGBBBKBOBGBB"),
   (["Wancho", "Wcho"],
    "3omA1ZFA"),
   (["Warang_Citi", "Wara"],
    "265A2SMA"),
   (["Yezidi", "Yezi"],
    "1gMAOADA2AJ220W1JBCCB"),
   (["Yi", "Yiii"],
    "c0BBFJCH6-AroE14MD1WmkwE"),
   (["Zanabazar_Square", "Zanb"],
    "26gA2H")]

/-- The script of every code point, as a partition. -/
def partition : String :=
  String.join
    ["Z2A2KZZF2KZZ1O2KAZO2KAZE2KWZA2K+ZA2KeAZ1G2KEZENBZT1w3P1NDZA1NCAB1NDZA1NAAD1NAZA1NAZA1NCA",
     "A1NAAA1NTAA1N1+wN1NP+4E1wB+5IAAF1FABF1RABFCAA1X1WAH1XwAD1XFAKEEZAEFZAENZAECZAE-ZAEJ1wKEZ",
     "1wAE3LZAE1B4QNAA4Q1xAB4QCE1P4x1RAN3J1wAB3JC4D1NAB4DOAA2VxAB2VAAA4QKAEE+AAEBAEE2KZAEy1A2Q",
     "1wD1AOZB1AZLDAALHABLBABLVAALGAALAACLDABLIABLBABLDAHLAADLBAALEABLYAB1QCAA1QFAD1QBAB1QVAA1",
     "QGAA1QBAA1QBAA1QBAB1QAAA1QEAD1QBAB1QCAC1QAAG1QDAA1QAAG1QQAJ1OCAA1OIAA1OCAA1OVAA1OGAA1OBA",
     "A1OEAB1OJAA1OCAA1OCAB1OAAO1ODAB1OLAG1OGAA3YCAA3YHAB3YBAB3YVAA3YGAA3YBAA3YEAB3YIAB3YBAB3Y",
     "CAG3YCAD3YBAA3YEAB3YRAJ4XBAA4XFAC4XCAA4XDAC4XBAA4XAAA4XBAC4XBAC4XCAC4XLAD4XEAC4XCAA4XDAB",
     "4XAAF4XAAN4XUAE4wMAA4wCAA4wWAA4wPAB4wIAA4wCAA4wDAG4wBAA4wCAB4wAAB4wDAB4wJAG4wI1-MAA1-CAA",
     "1-WAA1-JAA1-EAB1-IAA1-CAA1-DAG1-BAF1-BAA1-DAB1-JAA1-CAL2UMAA2UCAA2U1SAA2UCAA2UFAD2UPAB2U",
     "ZAA4JCAA4JRAC4JXAA4JIAA4JAAB4JGAC4JAAD4JFAA4JAAA4JHAF4JJAB4JCAL4y1ZADZA4yxA1E2JBAA2JAAA2",
     "JEAA2JXAA2JAAA2JWAB2JEAA2JAAA2JGAA2JJAB2JDA-4z2HAA4z1DAD4z1GAA4z1DAA4zOAA4zGZD4zBA1E3D4-",
     "1J1FAA1JAAE1JAAB1J1KZA1JD1T7-1H2IAA1HDAB1HGAA1HAAA1HDAB1H1IAA1HDAB1H1AAA1HDAB1HGAA1HAAA1",
     "HDAB1HOAA1H1YAA1HDAB1H2CAB1H-AC1HZAFX2VABXFABSj-3MyAC4C2KZC4CKAG4RVAI4RA1VUZBAIRTAL4SMAA",
     "4SCAA4SBAL2F2zAB2FJAF2FJAF3ABZB3AAZA3ATAF3A2YAG3A1KAES2FAJ2M+AA2MLAD2MLAD2MAAC2ML4TzAB4T",
     "EAK3H1LAD3HZAF3HKAC3HB2F-QxABQB4U1+AA4UyAB4UKAF4UJAF4UNAB1w+A1QH2MAAH1R4N1-K1TAHKD2L1XAC",
     "2LOAC2LC3N1P+KAE1J1KAB1JC4NHAH1wCZA1wMZA1wGZD1wAZF1wAZC1wBZAAE2K1F1NE+A2K1Q1NE2KD1NE2KM+",
     "A2K2F1NA1w1-2K7-1NVAB1NFAB1N1FAB1NFAB1NHAA1NAAA1NAAA1NAAA1N+AB1N1UAA1NOAA1NNAB1NFAA1NSAB",
     "1NCAA1NIAAZL1wBZ2WAAZK2KAABZK2KAZOAA2KMACZ1AAO1w1AAOZ1F1NAZC2KBZF2KAZw2KAZQ2K1IZCADZkZAV",
     "ZKAUZs-P7-ZjTABZ-AAZ3I1K2-2K-w3TAEwG1J1FAA1JAAE1JAAB4+1XAG4+BAN4+A1HWAI1HGAA1HGAA1HGAA1H",
     "GAA1HGAA1HGAA1HGAA1HGAA+-Z2zA1B1SZAA1S2YAL1S6VAZZU1SAZA1SAZY1SI1wD1TBZH1SDZDAA1Y2VAB1wBZ",
     "B1YCZA2A2ZZB2ACAEN1KAA1T2zAAZPN-Z1FAIZA2AP1T+AAZ1-1T+Z2Q2A1OZA2A2XZ5H1S6d-Z1-1Skf-5J14MA",
     "C5J1WAI2P1P5E9LAT+2-I2XAHZ1B2K3FZC2K2CAB2KBAA2KAAA2KHAU2KN4P1MACZJAF3+1XAH4E2FAH4ELAF1A-",
     "2C1NZA2CA4B1DAK4BA1TyAC1z2NAAZA1zJAD1zB3D+AAW1WAIWNABWJABWD3D-4V2CAX4VE2wWAJ1HFAB1HFAB1H",
     "FAI1HGAA1HGAA2K1KZA2KI1NA2KDZBADX2P2w1NAB2wJAF1TatDAL1TWAD1T1QA88D1SbNAB1S3JA1F2KGALFEAE",
     "1XZAA1XEAA1XAAA1XBAA1XBAA1XJE3SAPEbKZBE2PABE1VAGEAA-EP1wPZJAF1wN+BZ1CAAZSAAZDADEEAAE4GAB",
     "ZAAAZ-2KZZF2KZZK2AJZA2A1MZB1T+AC1TFAB1TFAB1TFAB1TCACZGAAZGAJZEAB2OLAA2OZAA2OSAA2OBAA2OOA",
     "B2ONA1B2O3wAEZCADZ1MACZI1N2OAAZMAC1NAA1OZ1M1wAA4B2QyACT1QAO1wAZwAD3Q1DAI3QC1LwAE3S1KAE5D",
     "zAA5DA3T1DAD3TNA1J-2P4G1P3wzAB3wJAF3Z1DAD3Z1DAD1F1HAHU1TAKUA5FKAA5FOAA5FGAA5FBAA5FKAA5FO",
     "AA5FGAA5FBAC5A1TAL2N9WAI2NVAJ2NHAX2KFAA2K1JAA2KIA2EyFAByAAAy1LAAyBACyAAByA1ZVAA1ZI3y-3E+",
     "AH3EIA1P1WSAA1WBAE1WE3-xAC3-A2RZAE2RAA1-2z-2yXAD2yTAB2y1N2DDAA2DBAE2DHAA2DCAA2DyAB2DCAD2",
     "DJAG2DIAG3V-3R-A-2W1GAD2WLAIG1VACGG1yVAB1yH1xSAE1xH4ARAG4ADAL4AGA2P3W2IA1W3P1SAM3P1SAG3P",
     "F1U1HAH1UJAF1I1FAC1IyAH1IBA6PE+AA5I1JAA5ICAB5IBAPECA1WED3U1HAH4K1JAV3XZA1FYxAT1GWAIO2NAD",
     "O1DAIOA1+2CAJ1+AAB4LYAG4LJAFV1UAAVRAH2S1GAI4F2-AA4JTAK2GRAA2G1OA1z3CGAA3CAAA3CDAA3COAA3C",
     "KAF2H1wAE2HJAF1MDAA1MHAB1MBAB1MVAA1MGAA1MBAA1MEAA1wA1MIAB1MBAB1MCAB1MAAF1MAAE1MGAB1MGAC1",
     "MEAK5CJAA5CAAB5CAAA5C1FAA5CJAA5CAAB5CAAA5CDAA5CJAA5CBAH5CBAy3I2xAA3IEAz4-2HAH4-JA5F4H1VA",
     "B4H1FA1B2-2EAK2-JAF3AMAS4W1ZAF4WJAF3DTAxCwABCOADCWA5Y1C1xA3D5H2SAL5HA1BGAB1BAAB1BHAA1BBA",
     "A1BzAA1BBAB1BLAI1BJA2F3GHAB3G1NAB3GKAw5K2HAH4M2SAMSP3z1YAG1AJA5V4O1BAN4OJAFMIAAM1MAAMNAJ",
     "MyAC2X-AB2XVAA2XNA2I2YGAA2YBAA2Y1LAC2YAAA2YBAA2YIAH2YJAF1PFAA1PBAA1P1EAA1PBAA1PFAG1PJA9V",
     "2TYAG2BQAA2B1IAC2ByA2U2PAAO4X1RAM4XAxsZA3Fx3OAAxEAKx6DA2iLz3CAM1E12VAJ1E3swAEDiGA6lY1R1Z",
     "A1mFIhYAG3B+AA3BJAD3BB4Y2OAA4YJAFJzABJFAJ3x2FAJ3xJAA3xGAA3xUAE3xSAdP2I1ZA6F2Z2wA3E2+2KAD",
     "2+1YAG2+QA1-4ZA3KA1SB2EAAK1SBAN4Z5vXAH4Zn-2EeVA1I2EA4ZIA8nG2ADAA2AGAA2ABAA2AA1Y8+2ACAO1Y",
     "AAy1YCAB2AAAN2ADAH3KcLA28D1D3KAE1DMAC1DIAG1DJAB1DDZDA3qxZ7ZAFZdTA2L1w1NAB1wWAIZ3TA1xZ7VA",
     "JZ1GABZ1z1wCZQ1wHZB1wGZz1wDZ1yAU1N2FA3ZZTALZTALZ2WAIZYA4GZ2UAAZ2GAAZBABZAABZBABZDAAZLAAZ",
     "AAAZGAAZ2AAAZDABZHAAZGAAZxAAZDAAZEAAZAACZGAAZaTABZ9DABZ1R4IkLAO4IEAA4IOA12P2K+AF2KFA6U1K",
     "GAA1KQAB1KGAA1KBAA1KEAE+1zA1A+AA3P3L1MAC3LNAB3LJAD3LBA9-5B+AQ5G1ZAE5GAAeP3F1JA6V3O1KAD3O",
     "AAe-1HGAA1HDAA1HBAA1HOAA2x6EAB2xPA1IB2LADBJADBBAoQZ2DA2LZ1yA6BEDAAEwAAEBAAEAABEAAAEJAAED",
     "AAEAAAEAAFEAADEAAAEAAAEAAAECAAEBAAEAABEAAAEAAAEAAAEAAAEAAAEBAAEAABEDAAEGAAEDAAEDAAEAAAEJ",
     "AAEQAEECAAEEAAEQA1TEBA8NZ1LADZ3DALZOABZOAAZOAAZ1EAJZ5NA1XZZ1YAZBAMZ1LADZIAGZBANZFA4ZZuXA",
     "DZQACZMACZ3WADZ2+AFZLADZAAOZLADZ1XAHZJAFZ1HAHZzABZLADZBA1zZaTALZNABZMACZJAEZ1XAGZOABZKAF",
     "ZIAGZ4SAAZ3FA10F1S19m-A-1S41ZAF1S6zAB1S5kBAN1S79QAO1SjNA2dB1SgzA1fB1S4qKAE1S42-Aln2QZAAz",
     "Z2-A3-1w7PA5vgP"]

def index? (normalized : String) : Option Nat :=
  extensions.findIdx? fun (names, _) => names.any (sameName · normalized)

/-- The code points of a script. -/
def find? (normalized : String) : Option RangeTable :=
  (index? normalized).map fun i => RangeTable.ofPartition partition (· == i + 1)

/-- The code points that are used with a script, its own or shared ones. -/
def findExtensions? (normalized : String) : Option RangeTable := do
  let i ← index? normalized
  let (_, text) ← extensions[i]?
  return RangeTable.ofText text

end Script

end SyscallFilter.Unicode
