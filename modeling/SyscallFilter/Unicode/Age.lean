import SyscallFilter.Unicode.RangeTable

/-! # Ages: the version in which a code point was assigned -/

namespace SyscallFilter.Unicode

namespace Age

/-- The versions, oldest first. A version's number is its place in this list. -/
def versions : List (String × String) :=
  [("1.1", "V1_1"), ("2.0", "V2_0"), ("2.1", "V2_1"), ("3.0", "V3_0"), ("3.1", "V3_1"),
   ("3.2", "V3_2"), ("4.0", "V4_0"), ("4.1", "V4_1"), ("5.0", "V5_0"), ("5.1", "V5_1"),
   ("5.2", "V5_2"), ("6.0", "V6_0"), ("6.1", "V6_1"), ("6.2", "V6_2"), ("6.3", "V6_3"),
   ("7.0", "V7_0"), ("8.0", "V8_0"), ("9.0", "V9_0"), ("10.0", "V10_0"), ("11.0", "V11_0"),
   ("12.0", "V12_0"), ("12.1", "V12_1"), ("13.0", "V13_0"), ("14.0", "V14_0"),
   ("15.0", "V15_0"), ("15.1", "V15_1"), ("16.0", "V16_0")]

/-- The version of every code point, as a partition. -/
def partition : String :=
  String.join
    ["AfVDDAzDHFAGADRGCHKINA2YDEGBA1ODAAJDEGQA2FDIFAGHHEGCABDAFMJDABJBxBAAICAAPAxDAGxAAAxAATxA",
     "A1LJAAGDAFBAADAAADAAADAAADAAREBFAGEHDDAALDAA2BDAALDAA1IJADBFBDDA1UFBABFBABFBIAAxDBAHHBAB",
     "IFFPIDJPKBLBPHxAA1FxBAGTAA1GTAAADAxBPBMAxABQHABMAJIAAIBAHCxHAwxDTAAExKGDMAPAJEHAAAGIJEAA",
     "OAXAHAAALAAZJEASDCGCHFLAANFBA2HDBAEDAAODAAzGBAJDEGADNxADzGCDwxBGCHzJRD1QFAxNI1wxBTCK1NxB",
     "KOxALxxBLAxASKxEX+xAXBxEwAXHMAPAMKPFQBXARHWJXKTAROQAMwPAKAACGAA1ULBARKALAAEKALBAYJBLEPAK",
     "BIBHAIBPAACxAAHxBABxBAVxAAGxAAAxCADxBAAGAAGxBABxBACHAxHAAxDABxAAExBAUKASBTAxBGAAAGAxAAFx",
     "DABxBAVxAAGxAABxAABxAABxBAAxAAExDABxBACxCJAxGADxAAAxGAOJATAxJACxAAGGAAAxAACxAAVxAAGxAABx",
     "AAExBAJxAACxAACxBAAxOAAGCxBAJMAGAxGQASFxAACxAAHxBABxBAVxAAGxAABxAGAADxBAHJAxBABxBACxGWAA",
     "BxDABxAACJBxBAKGALFxJABxAAFxCACxAADxCABxAAAxAABxCABxCACxCAHHAACxDAExCACxAADxBJAxFAAxNHAA",
     "LGHxEPAACTAAHxAACxAAWxAAJPAAExBXAJAAGxAACxAADxGABxAJBQAxBXAxBABJBxBAJxGUAJHRAPAABTAAHxAA",
     "CxAAWxAAJxAAExBGBAGxAACxAADxGABxFXAAAxAABIBxBAJxAIBYAxLSAPAABWAAHxAACxAAWLAAPLASBJAAFJAx",
     "AACxAADLARAxDRCAARGQAABJBxBAJJFRCJGxAWADBxADRxCDXxADIxADAxBDGxCDAxDDFxADAxADHxFPJxBDCxLA",
     "1ZxDAyx1EABxAAAxAUAABUAAAxAUAAAUFADUAAGUAACxAAAxAAAUBABUAAMUAACxBAExAAAxAAFYAxAAJxBABMBx",
     "-B2HxAB1ADAJBxDBwLDBFDABAxABUDCBGDABADCxADOxAJADAHBJCKDLBx1ED1BJADEJADBJADGJCDDJFDZJ1-KD",
     "JBA1FxAMAxEMAxBA1GFBHBAAHAMCA2ZKEA2DKEA2RKFDGHAD1+HADAxADDxBDGxADAxADDxBD1GHADAxADDxBD+H",
     "ADAxADDxBDGxADAxADDxBDGHADGxADWHAD+HADAxADDxBDGHAD1GHADSxBLBHBDxxCHZxFD2UQAxBQFxBKADjVKI",
     "DyxCD2QPHxGFMXAFGXAxIXAFWxIFTxLFMxAFCxAFBxLD2yGAxBDJxFGJxFDOXADJxFD2XTAxGD1JJAxEK2FxJGyP",
     "BxAGLxDGLxDGAxCG1JxBGExKH1JKBxDHZxFHJKAxCHBG-HxxBHBK1+xAKyxBKKxFKJxFKNxBPOWBXNx1QI2LXAxA",
     "wBI1MXBwAJ1KMCJLMFL1TxHLDJ1XxCJOxCJ1SRIwBxET1KxBTCMHxHK1CMDSAPBUAxEG3LH2XIGJxPOSDXARALAK",
     "AIBA4wBAJDA2ZJFAVxBAFxBA1FxBAFxBAHxAAAxAAAxAAAxAA+xBA1UxAAOxAANxBAFxAASxBACxAAIxAA1ODAAW",
     "FADFFEGBHBFAHGFEJAxAODAGFAxBAwxAHELHxCAKBACADCFBHDKCLANAPCQASAXAxOARDBFGHAIDJAxOA1YDBGAH",
     "AFOHAIBJAKCA1PDAIAJDKAQBxDA2wDIFLA7RFNAADAA3YDAFADzF1TGBHKILKALKPGRDSAA1EDBwCxVAKxUA4KFT",
     "GAA4VFJA2PDHFHATGBFBHADAA2VDBFLHBFJGHHKJAKBGBHPIAJJKCJDKJLAKSLAKALDKXPAADLAADLBAxLAA1CLA",
     "AALAADLCAAKAAGLBAGFNA+LCAXLAANLAHGIDMAJAMALBFxJDFPD7-Ff-GNHFIGJEIDJ1IPCJEKEPZxBP-xAWAP1B",
     "TCPLUAPHSATYQDTOUAH1OXAH1OXAIMJCKAJCIDJFKBH3KKGMBxEH1MxAMAxEMAxBH1VMBxGHALAxNLAHWxIHGxAH",
     "GxAHGxAHGxAHGxAHGxAHGxAHGxAJ-HXJDHBJSKAMJPGRBSETEUAWCXKx1BDZxAD2YxLD6VxZDLZDA1XDCFCDAAAx",
     "AA2TFBxBAFFBA2zFAxEA1HJASATAxAA2zxAAPDXLCWEHPJTwBxIZAFPAyGBxAA1DKLGAFOAxGBHAA1RFOALGDA1O",
     "VAA3WGDA3CGBA+GAD6dVWJG1-AkdFHVJHKHMAQISUTEWMXCD14MxCDRFBDPFADLFADCFADAxIK1PJ9LxTJ-LBJRM",
     "HJxPFQAMAK2XxHHWIDJEIBJ3KLBQALBMBPLLJMAPCRATAPBQFTBUFXBUEWDwCxBXBxAXAxAXEwCxUXCWBPAMBLAJ",
     "EH1LWAxCKJxFI1XxHJ2ERAxHJLxFKxQBTBJ2TxKJAKyxCK2NxAKKxDKBP+xAJ1WxIJNxBJJxBJDKxPDK2CxXKEMW",
     "xJLFxBLFxBLFxILGxALGxAP1PQDPBUBWDxDQ2PK1NxBKJxFBatDxLKWxDK1Qx20DA6hNMBF1wKCxBH3Jx1FAGxLA",
     "ExEDAAYxAAExAAAxAABxAABxAA3LLPXAxPAbMXPA1-xBA1VxGXAE-ALFAGAXBFPHJxFADJCPGQBAUFBGBAJxAASx",
     "AADxDACFAAAxAA4GxBAAxAA2zFBA2zxCAFxBAFxBAFxBACxCAGxAAGxJDCCAACGLxAGZxAGSxAGBxAGOxBGNx1BG",
     "3wxEGCxDG1MxCGIH2KPBRBxAJLWAxCPAx1OJ1Nx4BJyxCJ1QxOPxxDE+PAEDxISCEwxEP1KxEGzxAGAH1DxDHNx1",
     "JE1FGBE1FG2PxBGJxFR1DxDR1DxDP1HxHP1TxKPAXKxAXOxAXGxAXBxAXKxAXOxAXGxAXBxCw1TxLP9WxIPVxJPH",
     "xXXFxAX1JxAXIx2EGFxBGAxAG1LxAGBxCGAxBGAKVxAKIP1+xHPIx1PQSxAQBxEQEIZKBxCIAJZxEJAx1-M1XxDQ",
     "BMBQPxBQ1NHDxAHBxEHHxAHCxAHwTBxBHCxDHITAxGHIxGK-P-x-P1GxDPLxIK1VxCKyxBKwxEKHPRxGPDxLPGx2",
     "PK2Ix1WQ1SxMQ1SxGQFT1HxHTJxFw1FxCwyxHwBx6PK+xAW1JxAWCxBWBxPwCx1WwAYCT1HxHT1JxVXZx1FWxxTU",
     "WxIL2NxDLzXFxIPAK2BXAxJTAxBMYxGMJxFM1UxAMNTCWAxHP1GxIM2IQDPAWBMJPAQExAPTxKPRxAP1KRAYCx1z",
     "QGxAQAxAQDxAQOxAQKxFP1wxEPJxFQAPCxAPHxBPBxBPVxAPGxAPBxAPExATAPIxBPBxBPCxBQAxFPAxEPGxBPGx",
     "CPExKwJxAwAxBwAxAw1FxAwJxAwAxBwAxAwDxAwJxAwBxHwBxyR2ZWARAxARATAUAWBxzP2HxHPJx5FP1VxBPRQT",
     "x1BP2ExKPJxFRMxSM1XUAXAxFMJxFwTxxQZTAxBQOxDQPXGx5YT1xx3DP2SxLPAWGxBWAxBWHxAWBxAWzxAWBxBW",
     "LxIWJx2FUHxBU1NxBUKxwS2HxHS1TUBSWTASExMXPP1YxGYJx5Vw1BxNwJxFRIxAR1MxARNxJRyxCR-xBRVxARNx",
     "2ISGxASBxAS1LxCSAxASBxASIxHSJxFTFxATBxAT1ExATBxATFxGTJx9VTYxGYQxAY1IxCYxwAx2UWAxOU1RxMUA",
     "IrOP1JQAx3FI3CPLxAIDPAxKQ6Dx2iLX3CxMK11OYAUIYyxJw3swxEQiGx6lYw1Zx1mFLhYxGP+xAPJxDPBX2OxA",
     "XJxFPzxBPFxJP2FxJPJxAPGxAPUxEPSxdPw1Zx6FT2wx3EM2EUFxDUAM1OUIxGMQx1-RASAUBWAxKWBxNR5vMTEU",
     "FxHRnSWfCx1IwAWIx8nGXDxAXGxAXBxALBS8yXDxOYAxyUCxBYAxNUDxHScLx28DP3KxEPMxCPIxGPJxBPHx3qxw",
     "7ZxFwdTx2LX1NxBXWxIX3Tx1xE7VxJE1GxBJAE5TQKXBxUH2Fx3ZYTxLTTxLG2WxIIRTGx4GE2UxAE2GxAEBxBEA",
     "xBEBxBEDxAELxAEAxAEDGAEBxAE2AxAEDxBEHxAEGxAExxAEDxAEExAEAxCEGxAEaRHBxBE9BIBxBE1RQkLxOQEx",
     "AQOx12PX+xFYFx6URGxARQxBRGxARBxARExEY1zx1AYAx3PU1MxCUNxBUJxDUBx9-X+xQU1ZxEUAxePY1Jx6Vw1K",
     "xDwAxe-XGxAXDxAXBxAXOxAP6ExBPPx1IR2KUAxDRJxDRBxoQT2Dx2LU1yx6BMDxAMwxAMBxAMAxBMAxAMJxAMDx",
     "AMAxAMAxFMAxDMAxAMAxAMAxAMCxAMBxAMAxBMAxAMAxAMAxAMAxAMAxAMBxAMAxBMDxAMGxAMDxAMDxAMAxAMJx",
     "AMQxEMCxAMExAMQx1TMBx8NJ1LxDJ3DxLLOxBLNPAxALOxALOPVxJKKPBWCK+TALAKALKKALAKALBKALCKALCKEL",
     "HKALGKALJMBUAWCLIKALAKBLBKALJKDLBKALJRRWAx1XLZKALBxMK1BLIRAxDKIxGLBxNSFx4ZL1APLQCLFPAL2F",
     "PAQBLTPLL1EPALEPDQEPLLQPGQHL1+PALAPAL5VPALDPBQAL1zPBMDPGQELXPRRAP1IRAP2VLEMALPMALCMALAMA",
     "LAMALAMALCMALFMBLDMALAMBLDMALLPBQBLKP1PL2FPJQARBSBUAWBxDYAXCPMxCPDRCSBTAUAWBxCL3TYCxDYEP",
     "2UTDYAxFULxDXAxOPLxDP1XxHPJxFP1HxHPzxBWBwJxDwBx1zSLWAUCQIRFSARHSHRASBRLUARLSATCROSMTEUAW",
     "ATDWBXATAUATDQERMSFTKWBUFWCUBTJUFQATBUHWAXAUCSWTYU2TxLTNxBUDWAYCUCXBxCUCWDYBwAxEwAUFWSXD",
     "YCWGXDYCwAYAWCXCwAxGYBWGXCYBwAxBwAXHYAwAxFXGYBxGW4SxAW1Ww1EWJx10DBBE19mWWGXBx-K41UXDYAxF",
     "L6zxBQ5kBxNS79QxOZjNx2dBEgzx1e-BBW4qKxEY42-x1n2NBBx1vvzBBx1vvzBBx1vvzBBx1vvzBBx1vvzBBx1v",
     "vzBBx1vvzBBx1vvzBBx1vvzBBx1vvzBBxAEAxzE2-x3-G7Px1vgNB400B"]

/-- The code points assigned in a version or an older one. -/
def find? (normalized : String) : Option RangeTable :=
  (versions.findIdx? fun (dotted, long) => sameName dotted normalized || sameName long normalized).map
    fun i => RangeTable.ofPartition partition (· ≤ i)

end Age

end SyscallFilter.Unicode
