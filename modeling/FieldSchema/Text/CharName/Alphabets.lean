import FieldSchema.Text.CharName.Listing

/-!
# Names of alphabetic characters

The names of the characters below U+2000: most alphabets and syllabaries in use, their marks and
their digits.

* `CharName.alphabets`: the listings.
-/

namespace FieldSchema.Text

/-- The listings, in the order of the characters. -/
def CharName.alphabets : List NameListing := [
  ⟨0x20, [
    ":SPACE:EXCLAMAuk MhK:QUOTAuk.:NUMBe tGN:xLLh.:PeCrT.:AMPeSjD:APOSTROPHE:fFT PhrpEtS:Rg.:AST",
    "eISK:PLUS tGN:COMMA:HYPHr-MiUS:FULL STOP:SOLIDUS:DIGIT ZeO;kE;TWO;pyE;FOUR;FIVE;tX;SEVr;Eg;",
    "NiE:COLk:SEMICOLk:fSS-pj tGN:EQUlS.:GyATe-pj.:QUESuk MhK:COMMeCIl AT:LATi zA=B=C=D=E=F=G=H=",
    "I=J=K=L=M=N=O=P=Q=R=S=T=U=V=W=X=Y=Z:fFT SQUhwBRACKET:yVeSwSOLIDUS:Rg SQUhwBRACKET:CIRCUMFf",
    "X ACCrT:LOW LiE:GRAVwACCrT:LATi d nA=B=C=D=E=F=G=H=I=J=K=L=M=N=O=P=Q=R=S=T=U=V=W=X=Y=Z:fFT ",
    "CURLY BRACKET:VeuCl LiE:Rg CURLY BRACKET:uLDE"]⟩,
  ⟨0xA0, [
    ":NO-ByAK SPACE:iVeToEXCLAMAuk MhK:CrT tGN:POUND.:CURRrCY.:Yr.:BROKr Bh:SECuk tGN:DIAeEtS:CO",
    "PYRg tGN:FEMiiwORDil iDICATOR:fFT-POiTiG xUBf jGf QUOTAuk MhK:NOT tGN:SOFT HYPHr:yGISTeotGN",
    ":MACRk:DEGywtGN:PLUS-MiUS.:SUPeSCRIPT TWO;pyE:ACUTwACCrT:MICRO tGN:PILCROW.:MIDDf xT:CEDILL",
    "A:SUPeSCRIPT kE:MASCULiwORDil iDICATOR:Rg-POiTiG xUBf jGf QUOTAuk MhK:VULGh FRACuk kwQUhTe=",
    "HlF<pywQUhTeS:iVeToQUESuk MhK:LATi zAcGRAVE?ACUTE?CIRCUMFfX?uLDE?DIAeEtS?RiGq=AE=CcCEDILLA=",
    "EcGRAVE?ACUTE?CIRCUMFfX?DIAeEtS=IcGRAVE?ACUTE?CIRCUMFfX?DIAeEtS=Ep=NcuLDE=OcGRAVE?ACUTE?CIR",
    "CUMFfX?uLDE?DIAeEtS:MULuPLICAuk tGN:LATi zOcSTROKE=UcGRAVE?ACUTE?CIRCUMFfX?DIAeEtS=YcACUTE=",
    "pORN;d nSHhP S=AcGRAVE?ACUTE?CIRCUMFfX?uLDE?DIAeEtS?RiGq=AE=CcCEDILLA=EcGRAVE?ACUTE?CIRCUMF",
    "fX?DIAeEtS=IcGRAVE?ACUTE?CIRCUMFfX?DIAeEtS=Ep=NcuLDE=OcGRAVE?ACUTE?CIRCUMFfX?uLDE?DIAeEtS:D",
    "IVItk tGN:LATi d nOcSTROKE=UcGRAVE?ACUTE?CIRCUMFfX?DIAeEtS=YcACUTE=pORN=YcDIAeEtS;zAcMACRk;",
    "d.;zAcByVE;d.;zAcOGkEK;d.;zCcACUTE;d.;zCcCIRCUMFfX;d.;zCcxTq;d.;zCcChk;d.;zD.;d.;zDcSTROKE;",
    "d.;zEcMACRk;d.;zEcByVE;d.;zEcxTq;d.;zEcOGkEK;d.;zEcChk;d.;zGcCIRCUMFfX;d.;zGcByVE;d.;zGcxTq",
    ";d.;zGcCEDILLA;d.;zHcCIRCUMFfX;d.;zHcSTROKE;d.;zIcuLDE;d.;zIcMACRk;d.;zIcByVE;d.;zIcOGkEK;d",
    ".;zIcxTq;d nxTfSS I;CAPITl LIGATURwIJ;d.;zJcCIRCUMFfX;d.;zKcCEDILLA;d.=KRA;zLcACUTE;d.;zLcC",
    "EDILLA;d.;zLcChk;d.;zLcMIDDf xT;d.;zLcSTROKE;d.;zNcACUTE;d.;zNcCEDILLA;d.;zNcChk;d.>PyCEDoB",
    "Y APOSTROPHE;zrG;d.;zOcMACRk;d.;zOcByVE;d.;zOcxUBf ACUTE;d.;CAPITl LIGATURwOE;d.;zRcACUTE;d",
    ".;zRcCEDILLA;d.;zRcChk;d.;zScACUTE;d.;zScCIRCUMFfX;d.;zScCEDILLA;d.;zScChk;d.;zTcCEDILLA;d.",
    ";zTcChk;d.;zTcSTROKE;d.;zUcuLDE;d.;zUcMACRk;d.;zUcByVE;d.;zUcRiGq;d.;zUcxUBf ACUTE;d.;zUcOG",
    "kEK;d.;zWcCIRCUMFfX;d.;zY.;d.;zYcDIAeEtS=ZcACUTE;d.;zZcxTq;d.;zZcChk;d.=LkG S=BcSTROKE;zBcH",
    "OOK?TOPBh;d.;zTkwtX;d.;zOPr O=CcHOOK;d.;zAFRICj D=DcHOOK?TOPBh;d.=TURNoDELTA;zyVeSoE=SCHWA=",
    "OPr E=FcHOOK;d.;zG.=GAMMA;d nHV;zIOTA=IcSTROKE=KcHOOK;d.=LcBh=LAMBDAcSTROKE;zTURNoM=NcfFT H",
    "OOK;d nNcLkG Rg fG;zOcMIDDf uLDE?HORN;d.;zOI;d.;zPcHOOK;d.;nYR;zTkwTWO;d.;zESH;nyVeSoESH LO",
    "OP;d nTcPlATl HOOK;zTcHOOK;d.;zTcyTROFfX HOOK=UcHORN;d.;zUPtLk=VcHOOK=Y.;d.;zZcSTROKE;d.;zE",
    "ZH>yVeSED;d.>WIp TAIL;nTWOcSTROKE;zTkwFIVE;d.;niVeToGLOTTl STOPcSTROKE<WYNN<DrTl CLICK<LATe",
    "l.<lVEOLh.<yTROFfX.;zDZcChk=Dcd nZcChk;d nDZcChk;zLJ=Lcd nJ;d nLJ;zNJ=Ncd nJ;d nNJ;zAcChk;d",
    ".;zI.;d.;zO.;d.;zU.;d.;zUcDIAeEtS jD MACRk;d.;zUcDIAeEtS jD ACUTE;d.;zUcDIAeEtS jD Chk;d.;z",
    "UcDIAeEtS jD GRAVE;d.=TURNoE;zAcDIAeEtS jD MACRk;d.;zAcxTq jD MACRk;d.;zAEcMACRk;d.;zGcSTRO",
    "KE;d.;zGcChk;d.;zK.;d.;zOcOGkEK;d.;zOcOGkEK jD MACRk;d.;zEZHcChk;d.=J.;zDZ=Dcd nZ;d nDZ;zGc",
    "ACUTE;d.;zHWAIR=WYNN=NcGRAVE;d.;zAcRiGq jD ACUTE;d.;zAEcACUTE;d.;zOcSTROKwjD ACUTE;d.;zAcxU",
    "Bf GRAVE;d.;zAciVeToByVE;d.;zEcxUBf GRAVE;d.;zEciVeToByVE;d.;zIcxUBf GRAVE;d.;zIciVeToByVE;",
    "d.;zOcxUBf GRAVE;d.;zOciVeToByVE;d.;zRcxUBf GRAVE;d.;zRciVeToByVE;d.;zUcxUBf GRAVE;d.;zUciV",
    "eToByVE;d.;zScCOMMA BELOW;d.;zT.;d.;zYOGH;d.;zHcChk;d.;zNcLkG Rg fG;d nDcCURL;zOU;d.;zZcHOO",
    "K;d.;zAcxTq;d.;zEcCEDILLA;d.;zOcDIAeEtS jD MACRk;d.;zOcuLDE.;d.;zOcxTq;d.;zOcxTq jD MACRk;d",
    ".;zYcMACRk;d.=LcCURL=N.=T.=xTfSS J=DB DIGRAPH=QP.;zAcSTROKE=C.;d.;zLcBh=TcDIAGkl STROKE;d n",
    "ScSWASH TAIL=Z.;zGLOTTl STOP;d.;zBcSTROKE=U Bh=TURNoV=EcSTROKE;d.;zJ.;d.;zd QcHOOK TAIL;d n",
    "QcHOOK TAIL;zRcSTROKE;d.;zY.;d.=TURNoA=lPv=TURNolPv=BcHOOK=OPr O=CcCURL=DcTAIL?HOOK=yVeSoE=",
    "SCHWA>WIp HOOK=OPr E=yVeSoOPr E@WIp HOOK=CLOSoyVeSoOPr E=xTfSS JcSTROKE=GcHOOK=SCRIPT G;nd ",
    "CAPITl.;d nGAMMA=RAMS HORN=TURNoH=HcHOOK=HrG.=IcSTROKE=IOTA;nd CAPITl I;d nLcMIDDf uLDE?BEL",
    "T?yTROFfX HOOK=fZH=TURNoM?WIp LkG fG=McHOOK=NcfFT HOOK?yTROFfX.;nd CAPITl N;d nBhRoO;nd CAP",
    "ITl OE;d nCLOSoOMEGA=PHI=TURNoR?WIp LkG fG@HOOK=RcLkG fG?TAIL?FISHHOOK=yVeSoRcFISHHOOK;nd C",
    "APITl R>iVeToR;d nScHOOK=ESH=xTfSS JcSTROKwjD HOOK=SQUAT yVeSoESH=ESHcCURL=TURNoT=TcyTROFf",
    "X HOOK=U Bh=UPtLk=VcHOOK=TURNoV>W>Y;nd CAPITl.;d nZcyTROFfX HOOK?CURL=EZH>WIp CURL;nGLOTTl ",
    "STOP<PHhYNGEl VOICoFRICAuVE<iVeToGLOTTl STOP<STyTCHoC<BILABIl CLICK<d CAPITl B;d nCLOSoOPr ",
    "E;nd CAPITl GcHOOK>H;d nJcCROSSED-TAIL=TURNoK;nd CAPITl L;d nQcHOOK;nGLOTTl STOPcSTROKE<yVe",
    "SoGLOTTl STOPcSTROKE;d nDZ DIGRAPH=DEZH.=DZ DIGRAPHcCURL=TS DIGRAPH=TESH.=TC DIGRAPHcCURL=F",
    "rG DIGRAPH=LS.=LZ.;nBILABIl PeCUStVE<BIDrTl.;d nTURNoHcFISHHOOK@FISHHOOK jD TAIL:MODIFIe n",
    "d H>WIp HOOK=J=R=TURNoR?WIp HOOK=CAPITl iVeToR=W=Y<PRIME<xUBf PRIME<TURNoCOMMA<APOSTROPHE<y",
    "VeSoCOMMA<Rg HlF RiG<fFT.<GLOTTl STOP<yVeSoGLOTTl STOP<fFT hROWHEAD<Rg.<UP.<xWN.<CIRCUMFfX ",
    "ACCrT:Chk:MODIFIe nVeuCl LiE<MACRk<ACUTwACCrT<GRAVE.<LOW VeuCl LiE=MACRk=GRAVwACCrT=ACUTE.<",
    "TRIjGULh COLk<HlF TRIjGULh COLk<CrTRoRg HlF RiG=fFT.<UP TACK<xWN.<PLUS tGN<MiUS.:ByVE:xTq:R",
    "iG.:OGkEK:d uLDE:xUBf ACUTwACCrT:MODIFIe nRHOuC HOOK<CROSS ACCrT<d GAMMA=L=S=X=yVeSoGLOTTl ",
    "STOP<EXTRA-HIGH TkwBh<HIGH.<MID.<LOW.<EXTRA-LOW.<Yi DEPhTiG TkwMhK<YjG.<VOICiG<UNASPIRATED<",
    "xUBf APOSTROPHE<LOW xWN hROWHEAD=UP.=fFT.=Rg.=RiG<MIDDf GRAVwACCrT=xUBf GRAVwACCrT>ACUTE.<L",
    "OW uLDE<RAISoCOLk<BEGi HIGH TkE<rD.<BEGi LOW.<rD.<SHELF<OPr SHELF<LOW fFT hROW:COMBiiG GRAV",
    "wACCrT;ACUTE.;CIRCUMFfX.;uLDE;MACRk;OVeLiE;ByVE;xTq;DIAeEtS;HOOKq;RiG.;xUBf ACUTwACCrT;Chk;",
    "VeuCl LiEq;xUBf VeuCl LiEq<GRAVwACCrT;CjDRABiDU;iVeToByVE;TURNoCOMMAq;COMMAq;yVeSoCOMMAq;CO",
    "MMAq Rg;GRAVwACCrT BELOW;ACUTE.;fFT TACK.;Rg.;fFT jGfq;HORN;fFT HlF RiG BELOW;UP TACK BELOW",
    ";xWN.;PLUS tGN.;MiUS.;PlATlIZoHOOK.;yTROFfX.;xT BELOW;DIAeEtS.;RiG.;COMMA.;CEDILLA;OGkEK;Ve",
    "uCl LiwBELOW;BRIDGwBELOW;iVeToxUBf hCH BELOW;Chk BELOW;CIRCUMFfX ACCrT BELOW;ByVwBELOW;iVeT",
    "oByVwBELOW;uLDwBELOW;MACRk.;LOW LiE;xUBf LOW LiE;uLDwOVeLAY;SHORT STROKwOVeLAY;LkG.;SHORT S",
    "OLIDUS.;LkG.;Rg HlF RiG BELOW;iVeToBRIDGwBELOW;SQUhwBELOW;SEAGULL.;Xq;VeuCl uLDE;xUBf OVeLi",
    "E;GRAVwTkwMhK;ACUTE.;GyEK PeISPOMrI<KORkIS<DIlYuKA TkOS<YPOGEGRAMMrI;BRIDGEq;EQUlS tGN BELO",
    "W;xUBf VeuCl LiwBELOW;fFT jGf BELOW;NOT uLDEq;HOMOpEuCq;lMOST EQUl TOq;fFT Rg hROW BELOW;UP",
    "s hROW BELOW;GRAPHEMwJOie;Rg hROWHEADq;fFT HlF RiGq;FeMATA;X BELOW;fFT hROWHEAD BELOW;Rg.=j",
    "D UP hROWHEAD BELOW<HlF RiGq;xTq Rg;ASTeISK BELOW;xUBf RiG BELOW;ZIGZAGq;xUBf ByVwBELOW<ByV",
    "E<MACRk=BELOW<uLDE<iVeToByVE<Rgs hROW BELOW;LATi d nA>E>I>O>U>C>D>H>M>R>T>V>X:GyEK zHETA;d.",
    ";zhCvIC SAMPI;d.;NUMel tGN;LOWe NUMel tGN;zPAMPHYLIj DIGAMMA;d.~~;YPOGEGRAMMrI;d yVeSoLUNAT",
    "wtGMA SYMBOL<xTTED.<yVeSoxTToLUNATwtGMA SYMBOL;QUESuk MhK;zYOT~~~~;TkOS;DIlYuKA TkOS;zlPvcT",
    "kOS;jO TEfIA;zEPtLkcTkOS=ETA.=IOTA.~=OMICRk.~=UPtLk.=OMEGA.;d nIOTAcDIlYuKA jD TkOS;zlPv=BE",
    "TA=GAMMA=DELTA=EPtLk=ZETA=ETA=pETA=IOTA=KAPPA=LAMDA=MU=NU=XI=OMICRk=PI=RHO~=tGMA=TAU=UPtLk=",
    "PHI=CHI=Pt=OMEGA=IOTAcDIlYuKA=UPtLk.;d nlPvcTkOS=EPtLk.=ETA.=IOTA.=UPtLkcDIlYuKA jD TkOS=lP",
    "v=BETA=GAMMA=DELTA=EPtLk=ZETA=ETA=pETA=IOTA=KAPPA=LAMDA=MU=NU=XI=OMICRk=PI=RHO=Fil tGMA=tGM",
    "A=TAU=UPtLk=PHI=CHI=Pt=OMEGA=IOTAcDIlYuKA=UPtLk.=OMICRkcTkOS=UPtLk.=OMEGA.;CAPITl KAI SYMBO",
    "L;BETA SYMBOL;pETA.;UPtLkcHOOK SYMBOL=ACUTwjD HOOK SYMBOL=DIAeEtS.;PHI SYMBOL;PI.;KAI.;nhCv",
    "IC KOPPA;d nhCvIC KOPPA;nSuGMA;d nSuGMA;nDIGAMMA;d nDIGAMMA;nKOPPA;d nKOPPA;nSAMPI;d nSAMPI",
    ":COPuC zSHEI;d.;zFEI;d.;zKHEI;d.;zHORI;d.;zGjGIA;d.;zSHIMA;d.;zDEI;d.:GyEK KAPPA SYMBOL;RHO",
    ".;LUNATwtGMA SYMBOL;nYOT;CAPITl pETA SYMBOL;LUNATwEPtLk.;yVeSoLUNATwEPtLk SYMBOL;zSHO;d.;CA",
    "PITl LUNATwtGMA SYMBOL<nSj;d.;RHOcSTROKwSYMBOL;CAPITl yVeSoLUNATwtGMA SYMBOL<xTTED.<yVeSoxT",
    "ToLUNATwtGMA SYMBOL:CYRILLIC zIEcGRAVE=IO=DJE=GJE=UKRAiIj IE=DZE=BYELORUStj-UKRAiIj I=YI=JE",
    "=LJE=NJE=TSHE=KJE=IcGRAVE=SHORT U=DZHE=A=BE=VE=GHE=DE=IE=ZHE=ZE=I=SHORT I=KA=EL=EM=r=O=PE=e",
    "=ES=TE=U=EF=v=TSE=CHE=Sv=SHCv=HhD tGN=YeU=SOFT tGN=E=YU=YA;d nA=BE=VE=GHE=DE=IE=ZHE=ZE=I=SH",
    "ORT I=KA=EL=EM=r=O=PE=e=ES=TE=U=EF=v=TSE=CHE=Sv=SHCv=HhD tGN=YeU=SOFT tGN=E=YU=YA=IEcGRAVE=",
    "IO=DJE=GJE=UKRAiIj IE=DZE=BYELORUStj-UKRAiIj I=YI=JE=LJE=NJE=TSHE=KJE=IcGRAVE=SHORT U=DZHE;",
    "zOMEGA;d.;zYAT;d.;zIOuFIoE;d.;zLITTf YUS;d.;zIOuFIoLITTf YUS;d.;zBIG YUS;d.;zIOuFIoBIG YUS;",
    "d.;zKt;d.;zPt;d.;zFITA;d.;zIZHITSA;d.;zIZHITSAcxUBf GRAVwACCrT;d.;zUK;d.;zROUND OMEGA;d.;zO",
    "MEGAcuTLO;d.;zOT;d.;zKOPPA;d.;pOUSjDS tGN:COMBiiG CYRILLIC uTLO<PlATlIZAuk<DAtA PNEUMATA<Pt",
    "LI.<POKRYuE<HUNDRopOUSjDS tGN<MILLIkS tGN:CYRILLIC zSHORT IcTAIL;d.;zSEMISOFT tGN;d.;zecuCK",
    ";d.;zGHEcUPTURN;d.;zGHEcSTROKE;d.;zGHEcMIDDf HOOK;d.;zZHEcDESCrDe;d.;zZE.;d.;zKA.;d.;zKAcVe",
    "uCl STROKE;d.;zKAcSTROKE;d.;zBASHKIR KA;d.;zrcDESCrDe;d.;CAPITl LIGATURwr GHE;d.;zPEcMIDDf ",
    "HOOK;d.;zABKvtj v;d.;zEScDESCrDe;d.;zTE.;d.;zSTRAg U;d.;zSTRAg UcSTROKE;d.;zvcDESCrDe;d.;CA",
    "PITl LIGATURwTwTSE;d.;zCHEcDESCrDe;d.;zCHEcVeuCl STROKE;d.;zSHv;d.;zABKvtj CHE;d.;zABKvtj C",
    "HEcDESCrDe;d.;nPlOCHKA;zZHEcByVE;d.;zKAcHOOK;d.;zELcTAIL;d.;zrcHOOK;d.;zrcTAIL;d.;zKvKAStj ",
    "CHE;d.;zEMcTAIL;d.=PlOCHKA;zAcByVE;d.;zAcDIAeEtS;d.;CAPITl LIGATURwA IE;d.;zIEcByVE;d.;zSCH",
    "WA;d.;zSCHWAcDIAeEtS;d.;zZHE.;d.;zZE.;d.;zABKvtj DZE;d.;zIcMACRk;d.;zIcDIAeEtS;d.;zO.;d.;zB",
    "hRoO;d.;zBhRoOcDIAeEtS;d.;zEcDIAeEtS;d.;zUcMACRk;d.;zUcDIAeEtS;d.;zUcxUBf ACUTE;d.;zCHEcDIA",
    "eEtS;d.;zGHEcDESCrDe;d.;zYeUcDIAeEtS;d.;zGHEcSTROKwjD HOOK;d.;zvcHOOK;d.;zvcSTROKE;d.;zKOM",
    "I DE;d.;zKOMI DJE;d.;zKOMI ZJE;d.;zKOMI DZJE;d.;zKOMI LJE;d.;zKOMI NJE;d.;zKOMI SJE;d.;zKOM",
    "I TJE;d.;zyVeSoZE;d.;zELcHOOK;d.;zLv;d.;zRv;d.;zYAE;d.;zQA;d.;zWE;d.;zAfUT KA;d.;zELcMIDDf ",
    "HOOK;d.;zr.;d.;zPEcDESCrDe;d.;zSHv.;d.;zrcfFT HOOK;d.;zDZZHE;d.;zDCHE;d.;zELcDESCrDe;d.~:hM",
    "rIj zAYB=Br=GIM=DA=ECH=ZA=EH=ET=TO=ZHE=iI=LIWN=XEH=CA=Kr=HO=JA=GvD=CHEH=Mr=YI=NOW=Sv=VO=Cv=",
    "PEH=JHEH=RA=SEH=VEW=uWN=yH=CO=YIWN=PIWR=KEH=OH=FEH~~;MODIFIe nfFT HlF RiG;APOSTROPHE;EMPvt",
    "S MhK;EXCLAMAuk.;COMMA;QUESuk MhK;ABByVIAuk.;d nTURNoAYB=AYB=Br=GIM=DA=ECH=ZA=EH=ET=TO=ZHE=",
    "iI=LIWN=XEH=CA=Kr=HO=JA=GvD=CHEH=Mr=YI=NOW=Sv=VO=Cv=PEH=JHEH=RA=SEH=VEW=uWN=yH=CO=YIWN=PIWR",
    "=KEH=OH=FEH<LIGATURwECH YIWN<nYIcSTROKE;FULL STOP;HYPHr~~:Rg-FACiG hMrIj ETeNITY tGN:fFT-FA",
    "CiG.:hMrIj DRAM tGN~:HEByW ACCrT ETNAHTA<SEGOL<SHlSHEfT<ZAQEF QATj=GAxL<uPEv<yVIA<ZhQA<PASH",
    "TA<YEuV<TEVIR<GeESH=MUQDAM<GeSvYIM<QhNEY PhA<TELISv GExLA<PAZe<ATNAH vFUKH<MUNAH<MAvPAKH<Me",
    "Kv=KEFULA<DhGA<QADMA<TELISv QETjA<YeAH Br YOMO<Of<ILUY<DEHI<ZiOR;MhK MASORA CIRCf;POiT SHEV",
    "A<vTAF SEGOL=PATAH=QAMATS<HIRIQ<TSeE<SEGOL<PATAH<QAMATS<HOLAM=vSe FOR VAV<QUBUTS<DAGESH OR ",
    "MAPIQ<METEG;PUNCTUAuk MAQAF;POiT RAFE;PUNCTUAuk PASEQ;POiT SHi xT<Si.;PUNCTUAuk SOF PASUQ;M",
    "hK UPPe xT<LOWe.;PUNCTUAuk NUN vFUKv;POiT QAMATS QATj~~~~~~~~;nAfF<BET<GIMEL<DAfT<HE<VAV<ZA",
    "Yi<HET<TET<YOD<Fil KAF<KAF<LAMED<Fil MEM<MEM<Fil NUN<NUN<SAMEKH<AYi<Fil PE<PE<Fil TSADI<TSA",
    "DI<QOF<ySH<SHi<TAV~~~~;YOD TRIjGf;LIGATURwYIDDISH xUBf VAV=VAV YOD=xUBf.;PUNCTUAuk GeESH<Ge",
    "SvYIM~~~~~~~~~~~:hABIC NUMBe tGN;tGN SjAH;FOOTNOTwMhKe;tGN SAFv<SAMVAT;NUMBe MhKq:hABIC-iDI",
    "C CUBwROOT;FOURp.:hABIC RAY:hABIC-iDIC Pe MILf tGN<Tr pOUSjD tGN:AFGHjI tGN:hABIC COMMA;DAT",
    "wSEPhATOR;POEuC VeSwtGN;tGN MISRA<SlLlLAHOU lAYHwWASSlLAM<lAYHwASSlLAM<RAHMATULLAH lAYHE<RA",
    "DI lLAHOU jHU<TAKHlLUS;d HIGH TAH=LIGATURwAfFcLAMcYEH=ZAi<FApA<DAMMA<KASRA;SEMICOLk;nMhK;r",
    "D OF TEXT MhK;TRIPf xT PUNCTUAuk.;QUESuk MhK;nKASHMIRI YEH<vMZA<AfFcMADDAq>vMZA.<WAW.<AfFcv",
    "MZA BELOW<YEHcvMZAq<AfF<BEH<TEH MhBUTA<TEH<pEH<JEEM<vH<KvH<Dl<pl<yH<ZAi<SEr<SHEr<SAD<DAD<TA",
    "H<ZAH<Ai<Gvi<KEHEHcTWO xTSq>pywxTS BELOW<Fht YEHciVeToV?TWO xTSq?pyE.;TATWEEL;nFEH<QAF<KAF<",
    "LAM<MEEM<NOk<HEH<WAW<AfF MAKSURA<YEH;FApATj;DAMMATj;KASRATj;FApA;DAMMA;KASRA;SvDDA;SUKUN;MA",
    "DDAHq;vMZA.<BELOW;SUBSCRIPT AfF;iVeToDAMMA;MhK NOk GHUNNA;ZWhAKAY;VOWEL tGN d Vq=iVeTod Vq=",
    "xT BELOW;yVeSoDAMMA;FApAcTWO xTS;WAVY vMZA BELOW:hABIC-iDIC DIGIT ZeO<kE<TWO<pyE<FOUR<FIVE<",
    "tX<SEVr<Eg<NiE:hABIC PeCrT tGN;DECIMl SEPhATOR;pOUSjDS.;FIVwPOiToSTh;nxTfSS BEH=QAF<SUPeSCR",
    "IPT AfF<AfF WASLA=WIp WAVY vMZAq@BELOW<HIGH vMZA>AfF>WAW<UcvMZAq<HIGH vMZA YEH<TTEH<TTEHEH<",
    "BEEH<TEHcRiG>pywxTSq xWNs<PEH<TEHEH<BEHEH<vHcvMZAq>TWO xTS VeuClq<NYEH<DYEH<vHcpywxTSq<TCHE",
    "H<TCHEHEH<DDl<DlcRiG>xT BELOW@jD d TAH<DAHl<DDAHl<DUL<DlcpywxTSq xWNs>FOUR xTSq<RyH<yHcd V>",
    "RiG>xT BELOW>d V BELOW>xT BELOW jD xTq>TWO xTSq<JEH<yHcFOUR xTSq<SErcxT BELOW jD xTq>pywxT",
    "S BELOW@BELOW jD pywxTSq<SADcTWO xTS BELOW>pywxTSq<TAH.<Ai.<xTfSS FEH<FEHcxT MOVoBELOW?BELO",
    "W<VEH<FEHcpywxTS BELOW<PEHEH<QAFcxTq>pywxTSq<KEHEH<SWASH KAF<KAFcRiG>xTq<NG<KAFcpywxTS BELO",
    "W<GAF=WIp RiG<NGOEH<GAFcTWO xTS BELOW<GUEH<GAFcpywxTSq<LAMcd V>xTq>pywxTSq@BELOW<NOkcxT BEL",
    "OW=GHUNNA<RNOk<NOkcRiG>pywxTSq<HEH xACvSHMEE<TCHEHcxTq<HEHcYEH.=GOl>WIp vMZAq<TEH MhBUTA GO",
    "l<WAWcRiG<KIRGHIZ OE<OE<U<YU<KIRGHIZ YU<WAWcTWO xTSq<VE<Fht YEH<YEHcTAIL>d V<WAWcxTq<E<YEHc",
    "pywxTS BELOW=BhyE>WIp vMZAq;FULL STOP;nAE;d HIGH LIGATURwSADcLAMcAfF MAKSURA>QAF.=MEEM iIu",
    "l FORM=LAM AfF=JEEM=pywxTS=SEr;rD OF AYAH;SThT OF RUB EL HIZB;d HIGH ROUNDoZeO=UPRg yCTjGUL",
    "h ZeO=xTfSS HEAD OF KvH=MEEM ISOLAToFORM<LOW SEr<HIGH MADDA<WAW<YEH<HIGH YEH=NOk;PLACwOF SA",
    "JDAH;EMPTY CrTRwLOW STOP=HIGH.;ROUNDoHIGH STOPcFILfD CrTy;d LOW MEEM;nDlciVeToV<yH.:EXTrDoh",
    "ABIC-iDIC DIGIT ZeO=kE=TWO=pyE=FOUR=FIVE=tX=SEVr=Eg=NiE:hABIC nSHErcxT BELOW<DAD.<Gvi.;tGN ",
    "SiDHI AMPeSjD=POSTPOtuk Mr;nHEHciVeToV:SYRIAC rD OF PhAGRAPH;SUPRliEh FULL STOP;SUBLiEh.;SU",
    "PRliEh COLk;SUBLiEh.;HORIZkTl.;COLk SKEWofFT=Rg;SUPRliEh COLk SKEWofFT;SUBLiEh COLk SKEWoRg",
    ";CkTRACuk;HhKfj OBELUS<METOBELUS<ASTeISCUS~;ABByVIAuk MhK;nlAPH<SUPeSCRIPT lAPH<BEp<GAMl=Gh",
    "SHUNI<DlAp<xTfSS DlAp RISH<HE<WAW<ZAi<HEp<TEp=GhSHUNI<YUDH=HE<KAPH<LAMADH<MIM<NUN<SEMKAp<Fi",
    "l SEMKAp<E<PE<yVeSoPE<SADHE<QAPH<RISH<SHi<TAW<Petj BHEp=GvMl=DHlAp;PpAvq<BELOW<xTTED;ZQAPvq",
    "<BELOW<xTTED;RBASAq<BELOW;xTToZLAMA HORIZkTl=jGULh;HBASAq<BELOW;HBASA-ESASA xTTED;ESASAq<BE",
    "LOW;RWAv;FEMiiwxT;QUSHSvYA;RUKKAKv;TWO VeuCl xTSq>BELOW;pywxTSq=BELOW;OBLIQUwLiEq=BELOW;MUt",
    "C;BhyKH~~;nSOGDIj Zvi=KvPH=FE:hABIC nBEHcpywxTS HORIZkTlLY BELOW>xT BELOW jD pywxTSq>pywxT",
    "S POiTiG UPs BELOW@POiTiG UPs BELOW jD TWO xTSq>TWO xTS BELOW jD xTq>iVeTod V BELOW>d V<vHc",
    "TWO xTSq>pywxTS POiTiG UPs BELOW<DlcTWO xTS VeuClLY BELOW jD d TAH>iVeTod V BELOW<yHcSTROKE",
    "<SErcFOUR xTSq<AicTWO.>pywxTS POiTiG xWNsq>TWO xTS VeuClLYq<FEHcTWO xTS BELOW>pywxTS POiTi",
    "G UPs BELOW<KEHEHcxTq>pywxTSq@POiTiG UPs BELOW<MEEMcxTq?BELOW<NOkcTWO xTS BELOW>d TAH?V<LAM",
    "cBh<yHcTWO xTS VeuClLYq>vMZAq<SErcTWO xTS VeuClLYq<vHcd hABIC nTAH BELOW@nTAH jD TWO xTS<SE",
    "r.<yH.<vHcd hABIC nTAHq<AfFcEXTrDohABIC-iDIC DIGIT TWO.@DIGIT pyE.<Fht YEHcEXTrDohABIC-iDI",
    "C DIGIT TWOq@hABIC-iDIC DIGIT pyE.@hABIC-iDIC DIGIT FOUR BELOW<WAWcEXTrDohABIC-iDIC DIGIT T",
    "WOq@DIGIT pyE.<YEH BhyEcEXTrDohABIC-iDIC DIGIT TWOq@hABIC-iDIC DIGIT pyE.<vHcEXTrDohABIC-iD",
    "IC DIGIT FOUR BELOW<SErcEXTrDohABIC-iDIC DIGIT FOURq>iVeToV<KAFcTWO xTSq:pAjA nvA<SvVIYjI<N",
    "OkU<RAA<BAA<LvVIYjI<KAAFU<lIFU<VAAVU<MEEMU<FAAFU<DvlU<pAA<LAAMU<GAAFU<GNAVIYjI<SErU<DAVIYjI",
    "<ZAVIYjI<TAVIYjI<YAA<PAVIYjI<JAVIYjI<CvVIYjI<TTAA<HvA<KvA<pAlU<ZAA<SHErU<SAADHU<DAADHU<TO<Z",
    "O<AiU<GviU<QAAFU<WAAVU;ABAFILI;AABAAFILI;IBIFILI;EEBEEFILI;UBUFILI;OOBOOFILI;EBEFILI;EYBEYF",
    "ILI;OBOFILI;OABOAFILI;SUKUN;nNAA"]⟩,
  ⟨0x7C0, [
    ":NKO DIGIT ZeO<kE<TWO<pyE<FOUR<FIVE<tX<SEVr<Eg<NiE;nA<EE<I<E<U<OO<O<DAGBASiNA<N<BA<PA<TA<JA",
    "<Cv<DA<RA<RRA<SA<GBA<FA<KA<LA<NA WOLOSO<MA<NYA<NA<v<WA<YA<NYA WOLOSO<JkA JA=Cv=RA;COMBiiG S",
    "HORT HIGH TkE=LOW.=RISiG.<LkG DESCrDiG.=HIGH.=LOW.=RISiG.<NASlIZAuk MhK<xUBf xTq;HIGH TkwAP",
    "OSTROPHE;LOW.;SYMBOL OO DrNr<GBAKURUNr;COMMA;EXCLAMAuk MhK;LAJjYlj~~;DjTAYlj;xROMwtGN;TAMj.",
    ":SAMhITj nlAF<BIT<GAMj<DlAT<IY<BAA<Zr<IT<uT<YUT<KAAF<LABAT<MIM<NUN<SiGAAT<i<FI<TSAADIY<QUF<",
    "RISH<SHj<TAAF;MhK i<i-lAF<OCCLUtk<DAGESH;MODIFIe nEPrpEuC YUT;MhK EPrpEuC YUT;VOWEL tGN Lk",
    "G E=E=OVeLkG AA=LkG.=AA=OVeLkG A=LkG.=A;MODIFIe nSHORT A;VOWEL tGN.=LkG U=U;MODIFIe nI;VOWE",
    "L tGN LkG I=I=O=SUKUN;MhK NEQUDAA~~;PUNCTUAuk.<AFSAAQ<jGED<BAU<ATMAAU<SHIYYAlAA;ABByVIAuk M",
    "hK;PUNCTUAuk MELODIC QITSA<ZIQAA<QITSA<ZAEF<TURU<hKAjU<SOF MASHFAAT<jNAAU~:MjDAIC nHlQA<AB<",
    "AG<AD<AH<USHrNA<AZ<IT<ATT<AKSA<AK<l<AM<j<AS<i<AP<ASZ<AQ<h<ASH<AT<DUSHrNA<KAD<Ai;AFFRICAuk M",
    "hK;VOClIZAuk.;GEMiAuk.~~;PUNCTUAuk~:SYRIAC nMlAYlAM NGA=JA=NYA=TTA=NNA=NNNA=Bv=RA=LLA=LLLA=",
    "SSA~~~~~:hABIC nAfFcATTACHoFApA?TOP Rg FApA>Rg MIDDf STROKE>fFT.>ATTACHoKASRA?BOTTOM Rg KAS",
    "RA?ROUND xTq?Rg ROUND xT?fFT.?ROUND xT BELOW>xTq>ATTACHoTOP Rg FApA jD xTq>Rg MIDDf STROKwj",
    "D xTq>ATTACHoBOTTOM Rg KASRA jD xTq?TOP Rg FApA jD fFT RiG>Rg MIDDf STROKwjD fFT RiG>ATTACH",
    "oBOTTOM Rg KASRA jD fFT RiG?Rg vMZA?fFT.;TATWEELcOVeSTRUCK vMZA>WAW=TWO xTS BELOW;npi YEH;B",
    "ASELiwROUND xT;RAISED.;nNOkciVeTod V<vHciVeTod V BELOW<TAHcxT BELOW>pywxTS BELOW<KEHEHcTWO ",
    "xTS VeuClLY BELOW;VeuCl TAIL~;POUND MhKq;PIASTy.~~~~~~;d HIGH WORD l-JUZ<LOW WORD ISHMAAM>I",
    "MAlA>TASHEEL;MADDA WAAJIB;SUPeSCRIPT AfF MOKvSSAS;xUBfD MADDA;HlF MADDA OVe MADDA;nBEHcd V ",
    "BELOW>vMZAq<JEEMcTWO xTSq<TAH.<FEHcxT BELOW jD pywxTSq<QAFcxT BELOW<LAMcxUBf Bh<MEEMcpywxTS",
    "q<YEHcTWO xTS BELOW jD vMZAq@BELOW jD xT.<yHcLOOP<WAWcxT WIpi<ROHiGYA YEH<LOW AfF<DlcpywxT",
    "S BELOW<SAD.<GAFciVeToSTROKE<STRAg WAW<ZAiciVeToVq<AicpywxTS BELOW<KAFcxT BELOW<QAFcxT BELO",
    "W jD NO xTSq<BEHcd MEEMq<PEH.<TEHcd TEH.<yHcd NOk.<YEHcTWO xTS BELOW jD d NOkq<AFRICj FEH=Q",
    "AF=NOk<PEHcd V<TEH.<TTEH.<TCHEH.<KEHEH.<GvicpywxTSq<AFRICj QAFcpywxTSq<JEEMcpywxTSq@BELOW<L",
    "AMcd hABIC nTAHq<GRAF;d Fht YEH<HIGH Fht YEH=YEH BhyEcTWO xTS BELOW=WORD SAH=ZAH;LhGwROUND ",
    "xTq>BELOW;SUKUN BELOW;LhGwCIRCf BELOW<ROUND xT itDwCIRCf BELOW;d LOW WAW<HIGH WORD h-RUB=SA",
    "D=Ai=QAF=NOkcKASRA<LOW.<HIGH WORD Ap-plApA>AS-SAJDA>j-NISF>SAKTA>QIF>WAQFA=FOOTNOTwMhKe=tG",
    "N SAFv;DISPUTorD OF AYAH;TURNoDAMMA BELOW;CURLY FApA<DAMMA<KASRA<FApATj<DAMMATj<KASRATj;Tkw",
    "kwxTq<TWO xTS.<LOOPq<kwxT BELOW<TWO xTS.<LOOP BELOW;OPr FApATj<DAMMATj<KASRATj;d HIGH WAW;F",
    "ApAcRiG=xTq;KASRAcxT BELOW;fFT hROWHEADq;Rg.;fFT hROWHEAD BELOW;Rg.;xUBf Rg hROWHEADq?WIp x",
    "T;Rg hROWHEADqcxT;DAMMAcxT;MhK tDEWAYS NOk GHUNNA:DEVjAGhI tGN iVeToCjDRABiDU<CjDRABiDU<jUS",
    "VhA<VIShGA;nSHORT A<A<AA<I<II<U<UU<VOClIC R=L<CjDRA E<SHORT.<E<AI<CjDRA O<SHORT.<O<AU<KA<Kv",
    "<GA<Gv<NGA<CA<Cv<JA<Jv<NYA<TTA<TpA<DDA<DDv<NNA<TA<pA<DA<Dv<NA<NNNA<PA<Pv<BA<Bv<MA<YA<RA<RRA",
    "<LA<LLA<LLLA<VA<Sv<SSA<SA<v;VOWEL tGN OE=OOE;tGN NUKTA<AVAGRAv;VOWEL tGN AA=I=II=U=UU=VOClI",
    "C R>RR=CjDRA E=SHORT.=E=AI=CjDRA O=SHORT.=O=AU;tGN VIRAMA;VOWEL tGN PRISHpAMATRA E=AW;OM;ST",
    "ySS tGN UDATTA=jUDATTA;GRAVwACCrT;ACUTE.;VOWEL tGN CjDRA LkG E=UE=UUE;nQA<KHv<GHv<ZA<DDDv<R",
    "v<FA<YYA<VOClIC RR=LL;VOWEL tGN VOClIC L>LL;DjDA;xUBf DjDA;DIGIT ZeO<kE<TWO<pyE<FOUR<FIVE<t",
    "X<SEVr<Eg<NiE;ABByVIAuk tGN;tGN HIGH SPACiG xT;nCjDRA A<OE<OOE<AW<UE<UUE<MhWhI DDA<Zv<HEAV",
    "Y YA<GGA<JJA<GLOTTl STOP<DDDA<BBA:BrGlI jJI;tGN CjDRABiDU<jUSVhA<VIShGA~;nA<AA<I<II<U<UU<VO",
    "ClIC R=L~~<E<AI~~<O<AU<KA<Kv<GA<Gv<NGA<CA<Cv<JA<Jv<NYA<TTA<TpA<DDA<DDv<NNA<TA<pA<DA<Dv<NA~<",
    "PA<Pv<BA<Bv<MA<YA<RA~<LA~~~<Sv<SSA<SA<v~~;tGN NUKTA<AVAGRAv;VOWEL tGN AA=I=II=U=UU=VOClIC R",
    ">RR~~=E=AI~~=O=AU;tGN VIRAMA;nKHjDA TA~~~~~~~~;AU fNGp MhK~~~~;nRRA<Rv~<YYA<VOClIC RR=LL;VO",
    "WEL tGN VOClIC L>LL~~;DIGIT ZeO<kE<TWO<pyE<FOUR<FIVE<tX<SEVr<Eg<NiE;nRAcMIDDf DIAGkl>LOWe.;",
    "RUPEwMhK<tGN;CURRrCY NUMeATOR kE=TWO=pyE=FOUR=kwfSS pj pwDrOMiATOR<DrOMiATOR tXTEr;ISSHh;Gj",
    "DA MhK;nVEDIC jUSVhA;ABByVIAuk tGN;SjDHI MhK~~:GURMUKHI tGN ADAK BiDI<BiDI<VIShGA~;nA<AA<I<",
    "II<U<UU~~~~<EE<AI~~<OO<AU<KA<Kv<GA<Gv<NGA<CA<Cv<JA<Jv<NYA<TTA<TpA<DDA<DDv<NNA<TA<pA<DA<Dv<N",
    "A~<PA<Pv<BA<Bv<MA<YA<RA~<LA<LLA~<VA<Sv~<SA<v~~;tGN NUKTA~;VOWEL tGN AA=I=II=U=UU~~~~=EE=AI~",
    "~=OO=AU;tGN VIRAMA~~~<UDAAT~~~~~~~;nKHv<GHv<ZA<RRA~<FA~~~~~~~;DIGIT ZeO<kE<TWO<pyE<FOUR<FIV",
    "E<tX<SEVr<Eg<NiE;uPPI;ADDAK;IRI;URA;EK kKh;tGN YAKASH;ABByVIAuk tGN~~~~~~~~~~:GUJhAu tGN Cj",
    "DRABiDU<jUSVhA<VIShGA~;nA<AA<I<II<U<UU<VOClIC R=L;VOWEL CjDRA E~;nE<AI;VOWEL CjDRA O~;nO<AU",
    "<KA<Kv<GA<Gv<NGA<CA<Cv<JA<Jv<NYA<TTA<TpA<DDA<DDv<NNA<TA<pA<DA<Dv<NA~<PA<Pv<BA<Bv<MA<YA<RA~<",
    "LA<LLA~<VA<Sv<SSA<SA<v~~;tGN NUKTA<AVAGRAv;VOWEL tGN AA=I=II=U=UU=VOClIC R>RR=CjDRA E~=E=AI",
    "=CjDRA O~=O=AU;tGN VIRAMA~~;OM"]⟩,
  ⟨0xAE0, [
    ":GUJhAu nVOClIC RR=LL;VOWEL tGN VOClIC L>LL~~;DIGIT ZeO<kE<TWO<pyE<FOUR<FIVE<tX<SEVr<Eg<NiE",
    ";ABByVIAuk tGN;RUPEE.~~~~~~~;nZv;tGN SUKUN<SvDDA<MADDAH<pyE-xT NUKTAq<CIRCf.<TWO-CIRCf.~:OR",
    "IYA tGN CjDRABiDU<jUSVhA<VIShGA~;nA<AA<I<II<U<UU<VOClIC R=L~~<E<AI~~<O<AU<KA<Kv<GA<Gv<NGA<C",
    "A<Cv<JA<Jv<NYA<TTA<TpA<DDA<DDv<NNA<TA<pA<DA<Dv<NA~<PA<Pv<BA<Bv<MA<YA<RA~<LA<LLA~<VA<Sv<SSA<",
    "SA<v~~;tGN NUKTA<AVAGRAv;VOWEL tGN AA=I=II=U=UU=VOClIC R>RR~~=E=AI~~=O=AU;tGN VIRAMA~~~~~~~",
    "<OVeLiE;AI fNGp MhK;AU.~~~~;nRRA<Rv~<YYA<VOClIC RR=LL;VOWEL tGN VOClIC L>LL~~;DIGIT ZeO<kE<",
    "TWO<pyE<FOUR<FIVE<tX<SEVr<Eg<NiE;ISSHh;nWA;FRACuk kwQUhTe=HlF<pywQUhTeS<kwtXTErp=EgH<pywtXT",
    "ErpS~~~~~~~~~~:TAMIL tGN jUSVhA<VIShGA~;nA<AA<I<II<U<UU~~~<E<EE<AI~<O<OO<AU<KA~~~<NGA<CA~<J",
    "A~<NYA<TTA~~~<NNA<TA~~~<NA<NNNA<PA~~~<MA<YA<RA<RRA<LA<LLA<LLLA<VA<Sv<SSA<SA<v~~~~;VOWEL tG",
    "N AA=I=II=U=UU~~~=E=EE=AI~=O=OO=AU;tGN VIRAMA~~;OM~~~~~~;AU fNGp MhK"]⟩,
  ⟨0xBE6, [
    ":TAMIL DIGIT ZeO<kE<TWO<pyE<FOUR<FIVE<tX<SEVr<Eg<NiE;NUMBe Tr<kwHUNDyD=pOUSjD;DAY tGN;Mkp.;",
    "YEh.;DEBIT.;CyDIT.;ASq tGN;RUPEwtGN;NUMBe.~~~~~:TELUGU tGN COMBiiG CjDRABiDUq<CjDRABiDU<jUS",
    "VhA<VIShGA<COMBiiG jUSVhAq;nA<AA<I<II<U<UU<VOClIC R=L~<E<EE<AI~<O<OO<AU<KA<Kv<GA<Gv<NGA<CA<",
    "Cv<JA<Jv<NYA<TTA<TpA<DDA<DDv<NNA<TA<pA<DA<Dv<NA~<PA<Pv<BA<Bv<MA<YA<RA<RRA<LA<LLA<LLLA<VA<Sv",
    "<SSA<SA<v~~;tGN NUKTA<AVAGRAv;VOWEL tGN AA=I=II=U=UU=VOClIC R>RR~=E=EE=AI~=O=OO=AU;tGN VIRA",
    "MA~~~~~~~;fNGp MhK;AI fNGp MhK~;nTSA<DZA<RRRA~~<NAKAhA POLLU~~<VOClIC RR=LL;VOWEL tGN VOClI",
    "C L>LL~~;DIGIT ZeO<kE<TWO<pyE<FOUR<FIVE<tX<SEVr<Eg<NiE~~~~~~~;tGN tDDvM;FRACuk DIGIT ZeO FO",
    "R ODD POWeS OF FOUR=kE.=TWO.=pyE.=kwFOR EVr.=TWO.=pyE.;tGN TUUMU:KjNADA tGN SPACiG CjDRABiD",
    "U<CjDRABiDU<jUSVhA<VIShGA<tDDvM;nA<AA<I<II<U<UU<VOClIC R=L~<E<EE<AI~<O<OO<AU<KA<Kv<GA<Gv<NG",
    "A<CA<Cv<JA<Jv<NYA<TTA<TpA<DDA<DDv<NNA<TA<pA<DA<Dv<NA~<PA<Pv<BA<Bv<MA<YA<RA<RRA<LA<LLA~<VA<S",
    "v<SSA<SA<v~~;tGN NUKTA<AVAGRAv;VOWEL tGN AA=I=II=U=UU=VOClIC R>RR~=E=EE=AI~=O=OO=AU;tGN VIR",
    "AMA~~~~~~~;fNGp MhK;AI fNGp MhK~~~~~~;nNAKAhA POLLU<FA~<VOClIC RR=LL;VOWEL tGN VOClIC L>LL~",
    "~;DIGIT ZeO<kE<TWO<pyE<FOUR<FIVE<tX<SEVr<Eg<NiE~;tGN JIHVAMULIYA<UPADHMjIYA"]⟩,
  ⟨0xD00, [
    ":MlAYlAM tGN COMBiiG jUSVhAq<CjDRABiDU<jUSVhA<VIShGA;nVEDIC jUSVhA<A<AA<I<II<U<UU<VOClIC R=",
    "L~<E<EE<AI~<O<OO<AU<KA<Kv<GA<Gv<NGA<CA<Cv<JA<Jv<NYA<TTA<TpA<DDA<DDv<NNA<TA<pA<DA<Dv<NA<NNNA",
    "<PA<Pv<BA<Bv<MA<YA<RA<RRA<LA<LLA<LLLA<VA<Sv<SSA<SA<v<TTTA;tGN VeuCl Bh VIRAMA<CIRCULh VIRAM",
    "A<AVAGRAv;VOWEL tGN AA=I=II=U=UU=VOClIC R>RR~=E=EE=AI~=O=OO=AU;tGN VIRAMA;nxT yPH;tGN PhA~~",
    "~~;nCHILLU M=Y=LLL;AU fNGp MhK;FRACuk kwkE-HUNDyD-jD-tXuEp=FORuEp<pywEgIEpS<kwTWruEp=Trp<py",
    "wTWruEpS<kwFIFp;nhCvIC II<VOClIC RR=LL;VOWEL tGN VOClIC L>LL~~;DIGIT ZeO<kE<TWO<pyE<FOUR<FI",
    "VE<tX<SEVr<Eg<NiE;NUMBe Tr<kwHUNDyD=pOUSjD;FRACuk kwQUhTe=HlF<pywQUhTeS<kwtXTErp=EgH<pywtXT",
    "ErpS;DATwMhK;nCHILLU NN=N=RR=L=LL=K~:SiHlA tGN CjDRABiDU<jUSVhAYA<VIShGAYA~;nAYjNA<AAYjNA<A",
    "EYjNA<AEEYjNA<IYjNA<IIYjNA<UYjNA<UUYjNA<IRUYjNA<IRUUYjNA<ILUYjNA<ILUUYjNA<EYjNA<EEYjNA<AIYj",
    "NA<OYjNA<OOYjNA<AUYjNA~~~<lPAPRAjA KAYjNA<MAvAPRAjA.<lPAPRAjA GAYjNA<MAvAPRAjA.<KjTAJA NAAt",
    "KYAYA<SjYAKA GAYjNA<lPAPRAjA CAYjNA<MAvAPRAjA.<lPAPRAjA JAYjNA<MAvAPRAjA.<TAlUJA NAAtKYAYA=",
    "SjYOOGA NAAKtKYAYA<SjYAKA JAYjNA<lPAPRAjA TTAYjNA<MAvAPRAjA.<lPAPRAjA DDAYjNA<MAvAPRAjA.<MU",
    "URDvJA NAYjNA<SjYAKA DDAYjNA<lPAPRAjA TAYjNA<MAvAPRAjA.<lPAPRAjA DAYjNA<MAvAPRAjA.<DjTAJA N",
    "AYjNA~<SjYAKA DAYjNA<lPAPRAjA PAYjNA<MAvAPRAjA.<lPAPRAjA BAYjNA<MAvAPRAjA.<MAYjNA<AMBA BAYj",
    "NA<YAYjNA<RAYjNA~<DjTAJA LAYjNA~~<VAYjNA<TAlUJA SAYjNA<MUURDvJA.<DjTAJA.<vYjNA<MUURDvJA LAY",
    "jNA<FAYjNA~~~;tGN l-LAKUNA~~~~;VOWEL tGN AELA-PILLA=KETu AEDA-PILLA=DIGA.=KETu IS-PILLA=DIG",
    "A.=KETu PAA-PILLA~=DIGA.~=GAETTA-PILLA=KOMBUVA=DIGA KOMBUVA=KOMBU DEKA=KOMBUVA vA AELA-PILL",
    "A?DIGA AELA-PILLA?GAYjUKITTA=GAYjUKITTA~~~~~~;LIp DIGIT ZeO=kE=TWO=pyE=FOUR=FIVE=tX=SEVr=Eg",
    "=NiE~~;VOWEL tGN DIGA GAETTA-PILLA>GAYjUKITTA;PUNCTUAuk KUNDDlIYA"]⟩,
  ⟨0xE01, [
    ":pAI CHhACTe KO KAI<KHO KvI=KHUAT=KHWAI=KHk=RAKHjG<NGO NGU<CHO CHj=CHiG=CHjG<SO SO<CHO CHOE",
    "<YO YiG<x CvDA<TO PATAK<pO pj=NjGMkpO=PHUpAO<NO Nr<x DEK<TO TAO<pO pUNG=pAHj=pkG<NO NU<BO B",
    "AIMAI<PO PLA<PHO PHUNG<FO FA<PHO PHj<FO Fj<PHO SAMPvO<MO MA<YO YAK<RO RUA<RU<LO LiG<LU<WO W",
    "Ar<SO SlA=RUt=SUA<HO HIP<LO CHULA<O jG<HO NOKHUK<PAIYjNOI<ShA A<MAI Hj-AKAT<ShA AA=AM=I=II=",
    "UE=UEE=U=UU<PHipU~~~~;CURRrCY SYMBOL BAHT;CHhACTe ShA E=AE=O=AI MAIMUj>MAIMlAI<LAKKHjGYAO<M",
    "AIYAMOK<MAITAIKHU<MAI EK=pO=TRI=CvTTAWA<pjpAKvT<NIKvHIT<YAMAKKj<FkGMj;DIGIT ZeO<kE<TWO<pyE<",
    "FOUR<FIVE<tX<SEVr<Eg<NiE;CHhACTe jGKHjKHU<KHOMUT"]⟩,
  ⟨0xE81, [
    ":LAO nKO<KHO SUNG~=TAM~<PlI Gv<NGO<CO<PlI Cv<SO TAM~<PlI Jv<NYO<PlI NYA=TTA=TpA=DDA=DDv=NNA",
    "<x<TO<pO SUNG=TAM<PlI Dv<NO<BO<PO<PHO SUNG<FO TAM<PHO.<FO SUNG<PlI Bv<MO<YO<LO LiG~=LOOT~<W",
    "O<SjSKRIT Sv=SSA<SO SUNG<HO.<PlI LLA<O<HO TAM;ELLIPtS;VOWEL tGN A=MAI Kj=AA=AM=I=II=Y=YY=U=",
    "UU;tGN PlI VIRAMA;VOWEL tGN MAI Kk;SEMIVOWEL tGN LO=NYO~~;VOWEL tGN E=EI=O=AY=AI~;KO LA~;Tk",
    "wMAI EK=pO=u=CATAWA;CjCELLAuk MhK;NIGGAHITA~~;DIGIT ZeO<kE<TWO<pyE<FOUR<FIVE<tX<SEVr<Eg<NiE",
    "~~;HO NO<MO;nKHMU GO=NYO"]⟩,
  ⟨0xF00, [
    ":uBETj SYLLABf OM;MhK GTe YIG MGO TRUNCAToA?-UM RNAM BCAD MA@GTe TSHEG.<iIul YIG MGO MDUN M",
    "A<CLOSiG YIG MGO SGAB.<ChET YIG MGO PHUR SvD MA<YIG MGO TSHEG SvD MA<SBRUL SvD<BSKUR YIG MG",
    "O<BKA- SHOG YIG MGO<iTeSYLLABIC TSHEG<DELIMITe TSHEG BSTh<SvD<NYIS SvD<TSHEG.<NYIS TSHEG Sv",
    "D<Ri CHr SPUNGS SvD<RGYA GRAM SvD<ChET -DZUD RTAGS MwLkG Cj<GTe TSHEG;LOGOTYPwtGN CvD RTAGS",
    "=LvG.;ASTROLOGICl tGN SGRA GCj -CHh RTAGS=-KHYUD PA=SDkG TSHUGS;tGN RDEL DKh GCIG>GNYIS>GSU",
    "M=NAG GCIG>GNYIS=DKh RDEL NAG;DIGIT ZeO<kE<TWO<pyE<FOUR<FIVE<tX<SEVr<Eg<NiE<HlF kE=TWO=pyE=",
    "FOUR=FIVE=tX=SEVr=Eg=NiE=ZeO;MhK BSDUS RTAGS<NGAS BZUNG NYI ZLA<ChET -DZUD RTAGS BZHI MIG C",
    "j<NGAS BZUNG SGOR RTAGS<CHwMGO<TSA -PHRU<GUG RTAGS GYk>GYAS<jG KHjG GYk>GYAS;tGN Yh TSHES<M",
    "h.;nKA<Kv<GA<Gv<NGA<CA<Cv<JA~<NYA<TTA<TpA<DDA<DDv<NNA<TA<pA<DA<Dv<NA<PA<Pv<BA<Bv<MA<TSA<TSv",
    "<DZA<DZv<WA<Zv<ZA<-A<YA<RA<LA<Sv<SSA<SA<v<A<KSSA<FIXED-FORM RA<KKA<RRA~~~~;VOWEL tGN AA=I=I",
    "I=U=UU=VOClIC R>RR>L>LL=E=EE=O=OO;tGN RJES SU NGA RO<RNAM BCAD;VOWEL tGN yVeSoI>II;tGN NYI ",
    "ZLA NAA DA<SNA LDj;MhK HljTA<PlUTA;tGN LCI RTAGS<YjG.<LCwTSA Cj<MCHU Cj<GRU Cj RGYiGS=MED.<",
    "iVeToMCHU Cj;SUBJOiotGN LCwTSA Cj=MCHU Cj=iVeToMCHU Cj<nKA=Kv=GA=Gv=NGA=CA=Cv=JA~=NYA=TTA=T",
    "pA=DDA=DDv=NNA=TA=pA=DA=Dv=NA=PA=Pv=BA=Bv=MA=TSA=TSv=DZA=DZv=WA=Zv=ZA=-A=YA=RA=LA=Sv=SSA=SA",
    "=v=A=KSSA=FIXED-FORM WA>YA>RA~;KU RU Kv>BZHI MIG Cj;CjuLLAuk tGN HEAVY BEAT=Lg.=CjG TE-U=SB",
    "UB -CHl;SYMBOL DRIL BU<Rx RJE<PADMA GDj<Rx RJwRGYA GRAM<PHUR PA<NOR BU>NYIS -KHYIL>GSUM.>BZ",
    "HI.~;tGN RDEL NAG RDEL DKh>GSUM;MhK BSKA- SHOG GI MGO RGYj<MNYAM YIG.<NYIS TSHEG<iIul BRDA ",
    "RNYiG YIG MGO MDUN MA<CLOSiG BRDA RNYiG YIG MGO SGAB.:Rg-FACiG SVASu tGN:fFT-FACiG.:Rg-FACi",
    "G SVASu tGNcxTS:fFT-FACiG.:uBETj MhK fADiG MCHj RTAGS<TRAILiG."]⟩,
  ⟨0x1000, [
    ":MYjMh nKA<Kv<GA<Gv<NGA<CA<Cv<JA<Jv<NYA<NNYA<TTA<TpA<DDA<DDv<NNA<TA<pA<DA<Dv<NA<PA<Pv<BA<Bv",
    "<MA<YA<RA<LA<WA<SA<v<LLA<A<SHj A<I<II<U<UU<E<Mk E<O<AU;VOWEL tGN TlL AA=AA=I=II=U=UU=E=AI=M",
    "k II>O=Eq;tGN jUSVhA<xT BELOW<VIShGA<VIRAMA<ASAT;CkSkjT tGN MEDIl YA>RA>WA>v;nGyAT SA;DIGI",
    "T ZeO<kE<TWO<pyE<FOUR<FIVE<tX<SEVr<Eg<NiE;tGN LITTf SECuk<SECuk;SYMBOL LOCAuVE<COMPfTED<AFO",
    "yMrukED<GrIuVE;nSv<SSA<VOClIC R=RR=L=LL;VOWEL tGN VOClIC R>RR>L>LL;nMk NGA=Jv=BBA=BBE;CkSkj",
    "T tGN Mk MEDIl NA?MA?LA;nSGAW Khr Sv;VOWEL tGN SGAW Khr EU;TkwMhK SGAW Khr vpI?KwPHO;nWESTe",
    "N PWO Khr pA?PWA;VOWEL tGN WESTeN PWO Khr EU@UE;tGN WESTeN PWO Khr TkE-1?TkE-2?TkE-3?TkE-4?",
    "TkE-5;nEASTeN PWO Khr NNA?YWA?GHWA;VOWEL tGN GEBA Khr I=KAYAH OE>U>EE;nSHj KA=Kv=GA=CA=ZA=N",
    "YA=DA=NA=Pv=FA=BA=pA=v;CkSkjT tGN SHj MEDIl WA;VOWEL tGN SHj AA>E?ABOVE>Fil Y;tGN SHj TkE-2",
    "=TkE-3=TkE-5=TkE-6=COUNCIL TkE-2>TkE-3>EMPvuC TkE;nRUMAI PlAUNG FA;tGN RUMAI PlAUNG TkE-5;S",
    "Hj DIGIT ZeO=kE=TWO=pyE=FOUR=FIVE=tX=SEVr=Eg=NiE;tGN KvMu TkE-1=TkE-3;VOWEL tGN AITk A>AI;S",
    "YMBOL SHj kE=EXCLAMAuk:GEORGIj zj=Bj=Gj=Dk=r=Vi=Zr=Tj=i=Kj=LAS=Mj=Nh=k=Ph=ZHh=RAE=Sj=Th=UN=",
    "PHh=KHh=GHj=Qh=SHi=CHi=Cj=JIL=CIL=CHh=Xj=JHj=vE=HE=HIE=WE=Hh=HOE~=YN~~~~~=Ar~~;nj<Bj<Gj<Dk<",
    "r<Vi<Zr<Tj<i<Kj<LAS<Mj<Nh<k<Ph<ZHh<RAE<Sj<Th<UN<PHh<KHh<GHj<Qh<SHi<CHi<Cj<JIL<CIL<CHh<Xj<JH",
    "j<vE<HE<HIE<WE<Hh<HOE<FI<YN<ELIFI<TURNoGj<Ai;PhAGRAPH SEPhATOR:MODIFIe nGEORGIj Nh:GEORGIj ",
    "nAr<HhD tGN<LABIl.:HjGUL CHOSEkG KIYEOK<SSjGKIYEOK<NIEUN<uKEUT<SSjGuKEUT<RIEUL<MIEUM<PIEUP<",
    "SSjGPIEUP<tOS<SSjGtOS<IEUNG<CIEUC<SSjGCIEUC<CHIEUCH<KHIEUKH<pIEUp<PHIEUPH<HIEUH<NIEUN-KIYEO",
    "K<SSjGNIEUN<NIEUN-uKEUT<NIEUN-PIEUP<uKEUT-KIYEOK<RIEUL-NIEUN<SSjGRIEUL<RIEUL-HIEUH<KAPYEOUN",
    "RIEUL<MIEUM-PIEUP<KAPYEOUNMIEUM<PIEUP-KIYEOK<PIEUP-NIEUN<PIEUP-uKEUT<PIEUP-tOS<PIEUP-tOS-KI",
    "YEOK<PIEUP-tOS-uKEUT<PIEUP-tOS-PIEUP<PIEUP-SSjGtOS<PIEUP-tOS-CIEUC<PIEUP-CIEUC<PIEUP-CHIEUC",
    "H<PIEUP-pIEUp<PIEUP-PHIEUPH<KAPYEOUNPIEUP<KAPYEOUNSSjGPIEUP<tOS-KIYEOK<tOS-NIEUN<tOS-uKEUT<",
    "tOS-RIEUL<tOS-MIEUM<tOS-PIEUP<tOS-PIEUP-KIYEOK<tOS-SSjGtOS<tOS-IEUNG<tOS-CIEUC<tOS-CHIEUCH<",
    "tOS-KHIEUKH<tOS-pIEUp<tOS-PHIEUPH<tOS-HIEUH<CHITUEUMtOS<CHITUEUMSSjGtOS<CEkGCHIEUMtOS<CEkGC",
    "HIEUMSSjGtOS<PjtOS<IEUNG-KIYEOK<IEUNG-uKEUT<IEUNG-MIEUM<IEUNG-PIEUP<IEUNG-tOS<IEUNG-PjtOS<S",
    "SjGIEUNG<IEUNG-CIEUC<IEUNG-CHIEUCH<IEUNG-pIEUp<IEUNG-PHIEUPH<YEtEUNG<CIEUC-IEUNG<CHITUEUMCI",
    "EUC<CHITUEUMSSjGCIEUC<CEkGCHIEUMCIEUC<CEkGCHIEUMSSjGCIEUC<CHIEUCH-KHIEUKH<CHIEUCH-HIEUH<CHI",
    "TUEUMCHIEUCH<CEkGCHIEUMCHIEUCH<PHIEUPH-PIEUP<KAPYEOUNPHIEUPH<SSjGHIEUH<YEORiHIEUH<KIYEOK-uK",
    "EUT<NIEUN-tOS<NIEUN-CIEUC<NIEUN-HIEUH<uKEUT-RIEUL<FILLe;JUNGSEkG.<A<AE<YA<YAE<EO<E<YEO<YE<O",
    "<WA<WAE<OE<YO<U<WEO<WE<WI<YU<EU<YI<I<A-O<A-U<YA-O<YA-YO<EO-O<EO-U<EO-EU<YEO-O<YEO-U<O-EO<O-",
    "E<O-YE<O-O<O-U<YO-YA<YO-YAE<YO-YEO<YO-O<YO-I<U-A<U-AE<U-EO-EU<U-YE<U-U<YU-A<YU-EO<YU-E<YU-Y",
    "EO<YU-YE<YU-U<YU-I<EU-U<EU-EU<YI-U<I-A<I-YA<I-O<I-U<I-EU<I-hAEA<hAEA<hAEA-EO<hAEA-U<hAEA-I<",
    "SSjGhAEA<A-EU<YA-U<YEO-YA<O-YA<O-YAE;JkGSEkG KIYEOK<SSjGKIYEOK<KIYEOK-tOS<NIEUN<NIEUN-CIEUC",
    "<NIEUN-HIEUH<uKEUT<RIEUL<RIEUL-KIYEOK<RIEUL-MIEUM<RIEUL-PIEUP<RIEUL-tOS<RIEUL-pIEUp<RIEUL-P",
    "HIEUPH<RIEUL-HIEUH<MIEUM<PIEUP<PIEUP-tOS<tOS<SSjGtOS<IEUNG<CIEUC<CHIEUCH<KHIEUKH<pIEUp<PHIE",
    "UPH<HIEUH<KIYEOK-RIEUL<KIYEOK-tOS-KIYEOK<NIEUN-KIYEOK<NIEUN-uKEUT<NIEUN-tOS<NIEUN-PjtOS<NIE",
    "UN-pIEUp<uKEUT-KIYEOK<uKEUT-RIEUL<RIEUL-KIYEOK-tOS<RIEUL-NIEUN<RIEUL-uKEUT<RIEUL-uKEUT-HIEU",
    "H<SSjGRIEUL<RIEUL-MIEUM-KIYEOK<RIEUL-MIEUM-tOS<RIEUL-PIEUP-tOS<RIEUL-PIEUP-HIEUH<RIEUL-KAPY",
    "EOUNPIEUP<RIEUL-SSjGtOS<RIEUL-PjtOS<RIEUL-KHIEUKH<RIEUL-YEORiHIEUH<MIEUM-KIYEOK<MIEUM-RIEUL",
    "<MIEUM-PIEUP<MIEUM-tOS<MIEUM-SSjGtOS<MIEUM-PjtOS<MIEUM-CHIEUCH<MIEUM-HIEUH<KAPYEOUNMIEUM<PI",
    "EUP-RIEUL<PIEUP-PHIEUPH<PIEUP-HIEUH<KAPYEOUNPIEUP<tOS-KIYEOK<tOS-uKEUT<tOS-RIEUL<tOS-PIEUP<",
    "PjtOS<IEUNG-KIYEOK<IEUNG-SSjGKIYEOK<SSjGIEUNG<IEUNG-KHIEUKH<YEtEUNG<YEtEUNG-tOS<YEtEUNG-Pjt",
    "OS<PHIEUPH-PIEUP<KAPYEOUNPHIEUPH<HIEUH-NIEUN<HIEUH-RIEUL<HIEUH-MIEUM<HIEUH-PIEUP<YEORiHIEUH",
    "<KIYEOK-NIEUN<KIYEOK-PIEUP<KIYEOK-CHIEUCH<KIYEOK-KHIEUKH<KIYEOK-HIEUH<SSjGNIEUN:EpIOPIC SYL",
    "LABf v<HU<HI<vA<HEE<HE<HO<HOA<LA<LU<LI<LAA<fE<f<LO<LWA<Hv<HHU<HHI<HvA<HHEE<HHE<HHO<HHWA<MA<",
    "MU<MI<MAA<MEE<ME<MO<MWA<SZA<SZU<SZI<SZAA<SZEE<SZE<SZO<SZWA<RA<RU<RI<RAA<yE<y<RO<RWA<SA<SU<t",
    "<SAA<SEE<SE<SO<SWA<Sv<SHU<SHI<SvA<SHEE<SHE<SHO<SHWA<QA<QU<QI<QAA<QEE<QE<QO<QOA<QWA~<QWI<QWA",
    "A<QWEE<QWE~~<Qv<QHU<QHI<QvA<QHEE<QHE<QHO~<QHWA~<QHWI<QHWAA<QHWEE<QHWE~~<BA<BU<BI<BAA<BEE<BE",
    "<BO<BWA<VA<VU<VI<VAA<VEE<VE<VO<VWA<TA<TU<u<TAA<TEE<TE<TO<TWA<CA<CU<CI<CAA<CEE<CE<CO<CWA<XA<",
    "XU<XI<XAA<XEE<XE<XO<XOA<XWA~<XWI<XWAA<XWEE<XWE~~<NA<NU<NI<NAA<NEE<NE<NO<NWA<NYA<NYU<NYI<NYA",
    "A<NYEE<NYE<NYO<NYWA<GLOTTl A=U=I=AA=EE=E=O=WA<KA<KU<KI<KAA<KEE<KE<KO<KOA<KWA~<KWI<KWAA<KWEE",
    "<KWE~~<KXA<KXU<KXI<KXAA<KXEE<KXE<KXO~<KXWA~<KXWI<KXWAA<KXWEE<KXWE~~<WA<WU<WI<WAA<WEE<WE<WO<",
    "WOA<PHhYNGEl A=U=I=AA=EE=E=O~<ZA<ZU<ZI<ZAA<ZEE<ZE<ZO<ZWA<Zv<ZHU<ZHI<ZvA<ZHEE<ZHE<ZHO<ZHWA<Y",
    "A<YU<YI<YAA<YEE<YE<YO<YOA<DA<DU<DI<DAA<DEE<DE<x<DWA<DDA<DDU<DDI<DDAA<DDEE<DDE<Dx<DDWA<JA<JU",
    "<JI<JAA<JEE<JE<JO<JWA<GA<GU<GI<GAA<GEE<GE<GO<GOA<GWA~<GWI<GWAA<GWEE<GWE~~<GGA<GGU<GGI<GGAA<",
    "GGEE<GGE<GGO<GGWAA<pA<pU<pI<pAA<pEE<pE<pO<pWA<Cv<CHU<CHI<CvA<CHEE<CHE<CHO<CHWA<Pv<PHU<PHI<P",
    "vA<PHEE<PHE<PHO<PHWA<TSA<TSU<Tt<TSAA<TSEE<TSE<TSO<TSWA<TZA<TZU<TZI<TZAA<TZEE<TZE<TZO<TZOA<F",
    "A<FU<FI<FAA<FEE<FE<FO<FWA<PA<PU<PI<PAA<PEE<PE<PO<PWA<RYA<MYA<FYA~~;COMBiiG GEMiAuk jD VOWE",
    "L fNGp MhK<VOWEL fNGp MhK<GEMiAuk MhK;SECuk MhK;WORDSPACE;FULL STOP;COMMA;SEMICOLk;COLk;PyF",
    "ACwCOLk;QUESuk MhK;PhAGRAPH SEPhATOR;DIGIT kE<TWO<pyE<FOUR<FIVE<tX<SEVr<Eg<NiE;NUMBe Tr<TWr",
    "TY<pIRTY<FORTY<FIFTY<tXTY<SEVrTY<EgY<NiETY<HUNDyD<Tr pOUSjD~~~;SYLLABf SEBATBEIT MWA<MWI<MW",
    "EE<MWE<SEBATBEIT BWA<BWI<BWEE<BWE<SEBATBEIT FWA<FWI<FWEE<FWE<SEBATBEIT PWA<PWI<PWEE<PWE;Tk",
    "l MhK YIZET=DeET=RIKRIK=SHORT RIKRIK=DIFAT=KrAT=CHIyT=HIDET=DeET-HIDET=KURT~~~~~~:CHeOKEwnA",
    "<E<I<O<U<V<GA<KA<GE<GI<GO<GU<GV<v<HE<HI<HO<HU<HV<LA<f<LI<LO<LU<LV<MA<ME<MI<MO<MU<NA<HNA<NAH",
    "<NE<NI<NO<NU<NV<QUA<QUE<QUI<QUO<QUU<QUV<SA<S<SE<t<SO<SU<SV<DA<TA<DE<TE<DI<u<x<DU<DV<DLA<TLA",
    "<Tf<TLI<TLO<TLU<TLV<TSA<TSE<Tt<TSO<TSU<TSV<WA<WE<WI<WO<WU<WV<YA<YE<YI<YO<YU<YV<MV~~;d nYE=Y",
    "I=YO=YU=YV=MV~~:CjADIj SYLLABICS HYPHr<E<AAI<I<II<O<OO<Y-CywOO<ChRIe EE=I<A<AA<WE<WEST-CywW",
    "E<WI<WEST-CywWI<WII<WEST-CywWII<WO<WEST-CywWO<WOO<WEST-CywWOO<NASKAPI.<WA<WEST-CywWA<WAA<WE",
    "ST-CywWAA<NASKAPI.<AI<Y-CywW<GLOTTl STOP<Fil ACUTE=GRAVE=BOTTOM HlF RiG=TOP.=Rg.=RiG=xUBf A",
    "CUTE>SHORT VeuCl STROKES=MIDDf xT=SHORT HORIZkTl STROKE=PLUS=xWN TACK<r<i<k<j<PE<PAAI<PI<PI",
    "I<PO<POO<Y-CywPOO<ChRIe HEE=HI<PA<PAA<PWE<WEST-CywPWE<PWI<WEST-CywPWI<PWII<WEST-CywPWII<PWO",
    "<WEST-CywPWO<PWOO<WEST-CywPWOO<PWA<WEST-CywPWA<PWAA<WEST-CywPWAA<Y-CyE.<P<WEST-CywP<ChRIe H",
    "<TE<TAAI<u<uI<TO<TOO<Y-CywTOO<ChRIe DEE=DI<TA<TAA<TWE<WEST-CywTWE<TWI<WEST-CywTWI<TWII<WEST",
    "-CywTWII<TWO<WEST-CywTWO<TWOO<WEST-CywTWOO<TWA<WEST-CywTWA<TWAA<WEST-CywTWAA<NASKAPI.<T<TTE",
    "<Tu<TTO<TTA<KE<KAAI<KI<KII<KO<KOO<Y-CywKOO<KA<KAA<KWE<WEST-CywKWE<KWI<WEST-CywKWI<KWII<WEST",
    "-CywKWII<KWO<WEST-CywKWO<KWOO<WEST-CywKWOO<KWA<WEST-CywKWA<KWAA<WEST-CywKWAA<NASKAPI.<K<KW<",
    "SOUp-SLAVEY KEH=KIH=KOH=KAH<CE<CAAI<CI<CII<CO<COO<Y-CywCOO<CA<CAA<CWE<WEST-CywCWE<CWI<WEST-",
    "CywCWI<CWII<WEST-CywCWII<CWO<WEST-CywCWO<CWOO<WEST-CywCWOO<CWA<WEST-CywCWA<CWAA<WEST-CywCWA",
    "A<NASKAPI.<C<SAYIt p<ME<MAAI<MI<MII<MO<MOO<Y-CywMOO<MA<MAA<MWE<WEST-CywMWE<MWI<WEST-CywMWI<",
    "MWII<WEST-CywMWII<MWO<WEST-CywMWO<MWOO<WEST-CywMWOO<MWA<WEST-CywMWA<MWAA<WEST-CywMWAA<NASKA",
    "PI.<M<WEST-CywM<MH<ApAPASCj M<SAYIt.<NE<NAAI<NI<NII<NO<NOO<Y-CywNOO<NA<NAA<NWE<WEST-CywNWE<",
    "NWA<WEST-CywNWA<NWAA<WEST-CywNWAA<NASKAPI.<N<ChRIe NG<NH<f<LAAI<LI<LII<LO<LOO<Y-CywLOO<LA<L",
    "AA<LWE<WEST-CywLWE<LWI<WEST-CywLWI<LWII<WEST-CywLWII<LWO<WEST-CywLWO<LWOO<WEST-CywLWOO<LWA<",
    "WEST-CywLWA<LWAA<WEST-CywLWAA<L<WEST-CywL<MEDIl.<SE<SAAI<t<tI<SO<SOO<Y-CywSOO<SA<SAA<SWE<WE",
    "ST-CywSWE<SWI<WEST-CywSWI<SWII<WEST-CywSWII<SWO<WEST-CywSWO<SWOO<WEST-CywSWOO<SWA<WEST-CywS",
    "WA<SWAA<WEST-CywSWAA<NASKAPI.<S<ApAPASCj S<SW<BLACKFOOT S<MOOSE-CywSK<NASKAPI SKW=S-W=SPWA=",
    "STWA=SKWA=SCWA<SHE<SHI<SHII<SHO<SHOO<Sv<SvA<SHWE<WEST-CywSHWE<SHWI<WEST-CywSHWI<SHWII<WEST-",
    "CywSHWII<SHWO<WEST-CywSHWO<SHWOO<WEST-CywSHWOO<SHWA<WEST-CywSHWA<SHWAA<WEST-CywSHWAA<SH<YE<",
    "YAAI<YI<YII<YO<YOO<Y-CywYOO<YA<YAA<YWE<WEST-CywYWE<YWI<WEST-CywYWI<YWII<WEST-CywYWII<YWO<WE",
    "ST-CywYWO<YWOO<WEST-CywYWOO<YWA<WEST-CywYWA<YWAA<WEST-CywYWAA<NASKAPI.<Y<BIBf-CywY<WEST-CyE",
    ".<SAYIt YI<y<R-Cywy<WEST-Cywf<RAAI<RI<RII<RO<ROO<WEST-CywLO<RA<RAA<WEST-CywLA<RWAA<WEST-Cyw",
    "RWAA<R<WEST-CywR<MEDIl.<FE<FAAI<FI<FII<FO<FOO<FA<FAA<FWAA<WEST-CywFWAA<F<pE<N-CywpE<pI<N-Cy",
    "wpI<pII<N-CywpII<pO<pOO<pA<pAA<pWAA<WEST-CywpWAA<p<TpE<TpI<TpO<TpA<Tp<TYE<TYI<TYO<TYA<NUNAV",
    "IK HE=HI=HII=HO=HOO=v=vA=H<NUNAVUT.<HK<QAAI<QI<QII<QO<QOO<QA<QAA<Q<TLHE<TLHI<TLHO<TLv<WEST-",
    "Cywy=RI=RO=RA<NGAAI<NGI<NGII<NGO<NGOO<NGA<NGAA<NG<NNG<SAYIt SHE=SHI=SHO=Sv<WOODS-CywpE=pI=p",
    "O=pA=p<LHI<LHII<LHO<LHOO<Lv<LvA<LH<p-CywpE=pI=pII=pO=pOO=pA=pAA=p<AIVILIK B<BLACKFOOT E=I=O",
    "=A=WE=WI=WO=WA=NE=NI=NO=NA=KE=KI=KO=KA<SAYIt HE=HI=HO=v<ChRIe GHU=GHO=GHE=GHEE=GHI=Gv=RU=RO",
    "=y=yE=RI=RA=WU=WO=WE=WEE=WI=WA=HWU=HWO=HWE=HWEE=HWI=HWA=pU=pO=pE=pEE=pI=pA=TTU=TTO=TTE=TTEE",
    "=Tu=TTA=PU=PO=PE=PEE=PI=PA=P=GU=GO=GE=GEE=GI=GA=KHU=KHO=KHE=KHEE=KHI=Kv=KKU=KKO=KKE=KKEE=KK",
    "I=KKA=KK=NU=NO=NE=NEE=NI=NA=MU=MO=ME=MEE=MI=MA=YU=YO=YE=YEE=YI=YA=JU<SAYIt.<ChRIe JO=JE=JEE",
    "=JI<SAYIt.<ChRIe JA=JJU=JJO=JJE=JJEE=JJI=JJA=LU=LO=f=fE=LI=LA=DLU=DLO=Df=DfE=DLI=DLA=LHU=LH",
    "O=LHE=LHEE=LHI=Lv=TLHU=TLHO=TLHE=TLHEE=TLHI=TLv=TLU=TLO=Tf=TfE=TLI=TLA=ZU=ZO=ZE=ZEE=ZI=ZA=Z",
    "=iIul Z=DZU=DZO=DZE=DZEE=DZI=DZA=SU=SO=SE=SEE=t=SA=SHU=SHO=SHE=SHEE=SHI=Sv=SH=TSU=TSO=TSE=T",
    "SEE=Tt=TSA=CHU=CHO=CHE=CHEE=CHI=Cv=TTSU=TTSO=TTSE=TTSEE=TTt=TTSA<CHI tGN<FULL STOP<QAI<NGAI",
    "<NNGI<NNGII<NNGO<NNGOO<NNGA<NNGAA<WOODS-CywpWEE=pWI=pWII=pWO=pWOO=pWA=pWAA=Fil p<BLACKFOOT ",
    "W:OGvM SPACwMhK;nBEIp<LUIS<FEhN<SAIL<NIk<UAp<DAIR<TiNE<COLL<CEIRT<MUi<GORT<NGEADl<STRAIF<RU",
    "IS<AILM<kN<UR<EADvDH<IODvDH<EABvDH<OR<UILfjN<IFi<EAMHjCHOLL<PEIp;FEApe MhK;yVeSoFEApe MhK~~",
    "~:RUNIC nFEHU FEOH FwF<V<URUZ UR U<YR<Y<W<pURISAZ pURS pORN<Ep<jSUZ A<OS O<AC A<AESC<LkG-BR",
    "jCH-OSS O<SHORT-TWIG-OSS.<O<OE<k<RAIx RAD yID R<KAUNA<Cr<KAUN K<G<rG<GEBO GYFU G<Gh<WUNJO W",
    "YNN W<vGLAZ H<vEGL.<LkG-BRjCH-vGlL.<SHORT-TWIG-vGlL.<NAUDIZ NYD NAUD N<SHORT-TWIG-NAUD N<xT",
    "TED-N<ISAZ IS ISS I<E<Jej J<Ge<LkG-BRjCH-h AE<SHORT-TWIG-h A<IWAZ EOH<PepO PEORp P<lGIZ EOL",
    "HX<SOWILO S<tGEL LkG-BRjCH-SOL S<SHORT-TWIG-SOL S<C<Z<uWAZ uR TYR T<SHORT-TWIG-TYR T<D<BeKj",
    "j BEORC BJhKj B<SHORT-TWIG-BJhKj B<xTTED-P<OPr-P<EHWAZ EH E<MjNAZ Mj M<LkG-BRjCH-MADR M<SHO",
    "RT-TWIG-MADR.<LAUKAZ LAGU LOGR L<xTTED-L<iGWAZ<iG<DAGAZ DAEG D<Oplj EpEL O<Eh<IOR<CWEORp<Cl",
    "C<CElC<STj<LkG-BRjCH-YR<SHORT-TWIG-YR<ICELjDIC-YR<Q<X;SiGf PUNCTUAuk;MULuPf.;CROSS.;hLAUG S",
    "YMBOL;TVIMADUR.;BELGpOR.;nK<SH<OO<FRjKS CASKET OS>IS>EH>AC>AESC~~~~~~~:TAGlOG nA<I<U<KA<GA<",
    "NGA<TA<DA<NA<PA<BA<MA<YA<RA<LA<WA<SA<v;VOWEL tGN I=U;tGN VIRAMA<PAMUDPOD~~~~~~~~~;nhCvIC RA",
    ":HjUNOO nA<I<U<KA<GA<NGA<TA<DA<NA<PA<BA<MA<YA<RA<LA<WA<SA<v;VOWEL tGN I=U;tGN PAMUDPOD:PHIL",
    "IPPiwSiGf PUNCTUAuk;xUBf.~~~~~~~~~:BUHID nA<I<U<KA<GA<NGA<TA<DA<NA<PA<BA<MA<YA<RA<LA<WA<SA<",
    "v;VOWEL tGN I=U"]⟩,
  ⟨0x1760, [
    ":TAGBjWA nA<I<U<KA<GA<NGA<TA<DA<NA<PA<BA<MA<YA~<LA<WA<SA~;VOWEL tGN I=U"]⟩,
  ⟨0x1780, [
    ":KHMe nKA<Kv<KO<KHO<NGO<CA<Cv<CO<CHO<NYO<DA<TpA<x<TpO<NNO<TA<pA<TO<pO<NO<BA<Pv<PO<PHO<MO<YO",
    "<RO<LO<VO<Sv<SSO<SA<v<LA<QA;iDEPrDrT VOWEL QAQ=QAA=QI=QII=QU=QUK=QUU=QUUV=RY=RYY=LY=LYY=QE=",
    "QAI=QOO TYPwkE?TWO=QAU;VOWEL iHerT AQ=AA<tGN.=I=II=Y=YY=U=UU=UA=OE=YA=IE=E=AE=AI=OO=AU;tGN ",
    "NIKAHIT<yAHMUK<YUUKAfAPiTU<MUUtKATOj<TRIISAP<BjTOC<ROBAT<TOjDAKHIAT<KAKABAT<AHSDA<SAMYOK Sj",
    "NYA<VIRIAM<COrG<BApAMASAT<KHj<BhIYOOSj<CAMNUC PII KUUH<fK TOO<BEYYl<PHNAEK MUj<KOOMUUT;CURR",
    "rCY SYMBOL RIEL;tGN AVAKRAvSjYA<ATpACj~~;DIGIT ZeO<kE<TWO<pyE<FOUR<FIVE<tX<SEVr<Eg<NiE~~~~~",
    "~;SYMBOL fK ATTAK Sk>MUOY>PII>BEI>BUk>PRAM>PRAM-MUOY>PRAM-PII>PRAM-BEI>PRAM-BUk~~~~~~:MkGOL",
    "Ij BIRGA;ELLIPtS;COMMA;FULL STOP;COLk;FOUR xTS;TOx SOFT HYPHr;tBwSYLLABf BOUNDhY MhKe;MjCH",
    "U COMMA<FULL STOP;NIRUGU;FywVhIAuk SEfCTOR kE>TWO>pyE;VOWEL SEPhATOR;FywVhIAuk SEfCTOR FOUR",
    ";DIGIT ZeO<kE<TWO<pyE<FOUR<FIVE<tX<SEVr<Eg<NiE~~~~~~;nA<E<I<O<U<OE<UE<EE<NA<jG<BA<PA<QA<GA<",
    "MA<LA<SA<Sv<TA<DA<Cv<JA<YA<RA<WA<FA<KA<Kv<TSA<ZA<vA<ZRA<Lv<ZHI<CHI<TOx LkG VOWEL tGN=E=I=O=",
    "U=OE=UE=jG=BA=PA=QA=GA=MA=TA=DA=Cv=JA=TSA=YA=WA=KA=GAA=vA=JIA=NIA=DZA<tBwE=I=IY=UE=U=jG=KA=",
    "GA=v=PA=Sv=TA=DA=JA=FA=GAA=vA=TSA=ZA=RAA=Cv=Zv<MjCHU I=KA=RA=FA=Zv<CvcTWO xTS~~~~~~~<lI Gl",
    "I jUSVhA kE>VIShGA.>DAMhU>UBADAMA>iVeToUBADAMA>BlUDA>pywBlUDA>A>I>KA>NGA>CA>TTA>TpA>DDA>NNA",
    ">TA>DA>PA>Pv>SSA>Zv>ZA>AH<TOx lI GlI TA?Zv<MjCHU lI GlI Gv?NGA?CA?Jv?TTA?DDv?TA?Dv?SSA?CYA?",
    "Zv?ZA<lI GlI HlF U?YA<MjCHU lI GlI Bv<lI GlI DAGlGA<MjCHU lI GlI Lv~~~~~:CjADIj SYLLABICS O",
    "Y<AY<AAY<WAY<POY<PAY<PWOY<TAY<KAY<KWAY<MAY<NOY<NAY<LAY<SOY<SAY<SHOY<SvY<SHWOY<YOY<YAY<RAY<N",
    "WI<OJIBWAY NWI<NWII<OJIBWAY NWII<NWO<OJIBWAY NWO<NWOO<OJIBWAY NWOO<RWEE<RWI<RWII<RWO<RWOO<R",
    "WA<OJIBWAY P=T=K=C=M=N=S=SH<EASTeN W<WESTeN.<Fil d RiG=RAISoxT<R-CywRWE<WEST-CywLOO=LAA<pWE",
    "<pWA<TpWE<TpOO<TpAA<TLHWE<TLHOO<SAYIt SHWE=SHOO=HOO<ChRIe GWU=DrwGEE=GAA=GWA<SAYIt JUU<ChRI",
    "e JWA<BEAVe DrwL>R<ChRIe DrTl S~~~~~~~~~~:LIMBU VOWEL-ChRIe fTTe;nKA<Kv<GA<Gv<NGA<CA<Cv<JA<",
    "Jv<Yj<TA<pA<DA<Dv<NA<PA<Pv<BA<Bv<MA<YA<RA<LA<WA<Sv<SSA<SA<v<GYj<TRA~;VOWEL tGN A=I=U=EE=AI=",
    "OO=AU=E=O;SUBJOionYA=RA=WA~~~~;d nKA=NGA=jUSVhA=TA=NA=PA=MA=RA=LA;tGN MUKPHRrG<KEMPHRrG<SA-",
    "I~~~~<LOO~~~;EXCLAMAuk MhK;QUESuk.;DIGIT ZeO<kE<TWO<pyE<FOUR<FIVE<tX<SEVr<Eg<NiE:TAI f nKA=",
    "XA=NGA=TSA=SA=YA=TA=pA=LA=PA=Pv=MA=FA=VA=v=QA=Kv=TSv=NA=A=I=EE=EH=U=OO=O=UE=E=AUE=AI~~=TkE-",
    "2=TkE-3=TkE-4=TkE-5=TkE-6~~~~~~~~~~~:NEW TAI LUwnHIGH QA>LOW.>HIGH KA?XA?NGA>LOW KA?XA?NGA>",
    "HIGH TSA?SA?YA>LOW TSA?SA?YA>HIGH TA?pA?NA>LOW TA?pA?NA>HIGH PA?Pv?MA>LOW PA?Pv?MA>HIGH FA?",
    "VA?LA>LOW FA?VA?LA>HIGH v?DA?BA>LOW v?DA?BA>HIGH KVA?XVA>LOW KVA?XVA>HIGH SUA>LOW.~~~~=VOWE",
    "L tGN VOWEL SHORTre?AA?II?U?UU?E?AE?O?OA?UE?AY?AAY?UY?OY?OAY?UEY?IY=nFil V?NG?N?M?K?D?B=Tkw",
    "MhK-1>MhK-2~~~~~~=DIGIT ZeO>kE>TWO>pyE>FOUR>FIVE>tX>SEVr>Eg>NiE=pAM DIGIT kE~~~=tGN LAE>LAE",
    "V:KHMe SYMBOL PApAMASAT<MUOY KOET<PII.<BEI.<BUk.<PRAM.<PRAM-MUOY.<PRAM-PII.<PRAM-BEI.<PRAM-",
    "BUk.<DAP.<DAP-MUOY.<DAP-PII.<DAP-BEI.<DAP-BUk.<DAP-PRAM.<TUTEYASAT<MUOY ROC<PII.<BEI.<BUk.<",
    "PRAM.<PRAM-MUOY.<PRAM-PII.<PRAM-BEI.<PRAM-BUk.<DAP.<DAP-MUOY.<DAP-PII.<DAP-BEI.<DAP-BUk.<DA",
    "P-PRAM.:BUGiESwnKA<GA<NGA<NGKA<PA<BA<MA<MPA<TA<DA<NA<NRA<CA<JA<NYA<NYCA<YA<RA<LA<VA<SA<A<v;",
    "VOWEL tGN I=U=E=O=AE~~;PlLAWA;rD OF SECuk:TAI pAM nHIGH KA>Kv>KXA=LOW KA>KXA>Kv=NGA=HIGH CA",
    ">Cv=LOW CA>SA>Cv=NYA=RATA=HIGH RApA=DA=LOW RApA=RjA=HIGH TA>pA=LOW TA>pA=NA=BA=HIGH PA>Pv>F",
    "A=LOW PA>FA>Pv=MA=LOW YA=HIGH.=RA=RUE=LA=LUE=WA=HIGH Sv>SSA>SA>v=LLA=A=LOW v=I=II=U=UU=EE=O",
    "O=LAE=GyAT SA<CkSkjT tGN MEDIl RA?LA>LA TjG LAI<tGN MAI KjG LAI<CkSkjT tGN Fil NGA>LOW PA>H",
    "IGH RApA OR LOW PA>MA>BA>SA~<tGN SAKOT<VOWEL tGN A>MAI SAT>AA>TlL AA>I>II>UE>UUE>U>UU>O>OA ",
    "BELOW>OY>E>AE>OO>AI>pAM AI>OAq<tGN MAI KjG=TkE-1=TkE-2=KHUr TkE-3>TkE-4>TkE-5=RA vAM=MAI SA",
    "M=KHUr-LUwKhj~~<COMBiiG CRYPTOGRAMMIC xT<HORA DIGIT ZeO>kE>TWO>pyE>FOUR>FIVE>tX>SEVr>Eg>NiE",
    "~~~~~~<pAM DIGIT ZeO>kE>TWO>pyE>FOUR>FIVE>tX>SEVr>Eg>NiE~~~~~~<tGN WIjG=WIjGWAAK=SAWj=KEOW=",
    "HOY=xKMAI=yVeSoROTAToRjA=MAI YAMOK=KAj=KAjKUU=SATKAj=SATKAjKUU=HjG=CAjG~~:COMBiiG xUBfD CIR",
    "CUMFfX ACCrT;DIAeEtS-RiG;iFiITY;xWNs hROW;TRIPf xT;X-X BELOW;WIGGLY LiwBELOW;OPr MhK.;xUBf ",
    "OPr MhK BELOW;Lg CrTRlIZAuk STROKE.;STRkG.;PhrpESESq;xUBf PhrpESESq;PhrpESES BELOW<OVeLAY;L",
    "ATi d nW BELOW>TURNoW BELOW;fFT PhrpEtSq fFT;Rg PhrpEtSq Rg;fFT PhrpEtS BELOW fFT;Rg PhrpEt",
    "S BELOW Rg;SQUhwBRACKETSq;NUMBe tGN.;iVeToxUBf hCHq;PLUS tGNq;xUBf PLUS tGNq>BELOW;TRIPf AC",
    "UTwACCrT;LATi d niSULh G?R?T"]⟩,
  ⟨0x1B00, [
    ":BliESwtGN ULU RICEM=CjDRA<CECEK<SURjG<BISAH;nAKhA=TEDUNG<IKhA=TEDUNG<UKhA=TEDUNG<RA yPA>TE",
    "DUNG<LA fNGA>TEDUNG<EKhA<AIKhA<OKhA=TEDUNG<KA=MAvPRjA<GA=GORA<NGA<CA=LACA<JA=JeA<NYA<TA LAu",
    "K=MURDA MAvPRjA<DA MURDA lPAPRjA>MAvPRjA<NA RAMBAT<TA=TAWA<DA=MADU<NA<PA=KAPl<BA=KEMBjG<MA<",
    "YA<RA<LA<WA<SA SAGA=SAPA<SA<v;tGN ReEKj;VOWEL tGN TEDUNG=ULU>ShI=SUKU>ILUT=RA yPA?TEDUNG=L",
    "A fNGA?TEDUNG=TliG>yPA>TEDUNG>yPA TEDUNG=PEPET>TEDUNG;ADEG ADEG;nKAF SASAK<KHOT.<TZIR.<EF.<",
    "VE.<Zl.<ASYURA.<hCvIC JNYA~~~;DIGIT ZeO<kE<TWO<pyE<FOUR<FIVE<tX<SEVr<Eg<NiE;Pju;PAMADA;WiDU",
    ";ChIK PAMUNGKAH<tKI<Pher;PAMrrG;MUtCl SYMBOL DkG=DrG=DUNG=DjG>SURjG=DiG=DArG=DEUNG=DAiG=Dj",
    "G GEDE=COMBiiG TEGEH>rDEP>KEMPUL>KEMPLI>JEGOGj>KEMPULcJEGOGj>KEMPLI.>BrDE>GkG=Rg-HjD OPr DU",
    "G?DAG>CLOSoTUK?TAK=fFT-HjD OPr PjG?PUNG>CLOSoPLAK?PLUK>OPr PiG;Pju LjTjG;PAMADA.~:SUNDjESwt",
    "GN PjYECEK<PjGLAYh<PjGWISAD;nA<I<U<AE<O<E<EU<KA<QA<GA<NGA<CA<JA<ZA<NYA<TA<DA<NA<PA<FA<VA<BA",
    "<MA<YA<RA<LA<WA<SA<XA<v;CkSkjT tGN PAMiGKl=PjYAKRA=PjYIKU;VOWEL tGN PjGHULU=PjYUKU=PjAELArG",
    "=PjOLkG=PAMEPET=PjEUfUNG;tGN PAMAAEH<VIRAMA;CkSkjT tGN PASjGj MA>WA;nKv<SYA;DIGIT ZeO<kE<TW",
    "O<pyE<FOUR<FIVE<tX<SEVr<Eg<NiE;AVAGRAv;nyU<fU<Bv<Fil K=M:BATAK nA<tMlUNGUN A<v<tMlUNGUN v<M",
    "jDAILiG.<BA<KhO BA<PA<tMlUNGUN PA<NA<MjDAILiG NA<WA<tMlUNGUN WA<PAKPAK.<GA<tMlUNGUN GA<JA<D",
    "A<RA<tMlUNGUN RA<MA<tMlUNGUN MA<SOUpeN TA<NORpeN.<SA<tMlUNGUN SA<MjDAILiG.<YA<tMlUNGUN YA<N",
    "GA<LA<tMlUNGUN LA<NYA<CA<NDA<MBA<I<U;tGN TOMPI;VOWEL tGN E=PAKPAK E=EE=I=KhO I=O=KhO O=U>FO",
    "R tMlUNGUN SA;CkSkjT tGN NG=H;PjGOLAT;PjkGkj~~~~~~~~;SYMBOL BiDU NA METEK=PihBORAS=JUDUL=Pj",
    "GOLAT:fPCv nKA<KLA<Kv<GA<GLA<NGA<CA<Cv<JA<NYA<TA<pA<DA<NA<PA<PLA<Pv<FA<FLA<BA<BLA<MA<MLA<TS",
    "A<TSv<DZA<YA<RA<LA<v<HLA<VA<SA<Sv<WA<A;SUBJOionYA=RA;VOWEL tGN AA=I=O=OO=U=UU=E;CkSkjT tGN ",
    "K=M=L=N=P=R=T=NYi-x=KjG;tGN Rj<NUKTA~~~;PUNCTUAuk TA-ROL<NYET pYOOM TA-ROL<Ce-WA<TSHOOK Ce-",
    "WA<TSHOOK;DIGIT ZeO<kE<TWO<pyE<FOUR<FIVE<tX<SEVr<Eg<NiE~~~;nTTA<TpA<DDA:OL CHIKI DIGIT ZeO=",
    "kE=TWO=pyE=FOUR=FIVE=tX=SEVr=Eg=NiE<nLA=AT=AG=jG=l=LAA=AAK=AAJ=AAM=AAW=LI=IS=IH=iY=IR=LU=UC",
    "=UD=UNN=UY=f=EP=EDD=r=eR=LO=OTT=OB=OV=OH<MU TTUDDAG<GAAHLAA TTUDDAAG<MU-GAAHLAA.<yLAA<PvhKA",
    "A<AvD<PUNCTUAuk MUCAAD=xUBf MUCAAD:CYRILLIC d nROUNDoVE=LkG-fGGoDE=NhROW O=WIDwES=TlL TE=py",
    "E-fGGED.=TlL HhD tGN>YAT=UNBfNDoUK~~~~~~~:GEORGIj MTAVRULI zj>Bj>Gj>Dk>r>Vi>Zr>Tj>i>Kj>LAS>",
    "Mj>Nh>k>Ph>ZHh>RAE>Sj>Th>UN>PHh>KHh>GHj>Qh>SHi>CHi>Cj>JIL>CIL>CHh>Xj>JHj>vE>HE>HIE>WE>Hh>HO",
    "E>FI>YN>ELIFI>TURNoGj>Ai~~>Ar>HhD tGN>LABIl.:SUNDjESwPUNCTUAuk BiDU SURYA=PjGLkG=PURNAMA=CA",
    "KRA=fU SATjGA=KA.=DA.=BA.~~~~~~~~:VEDIC TkwKhSHjA<SHhA<PRrKv;tGN NIHSHVASA<YAJURVEDIC MIDLi",
    "wSVhITA;TkwYAJURVEDIC AGGRAVAToiDEPrDrT SVhITA=iDEPrDrT SVhITA=KApAKA iDEPrDrT SVhITA<CjDR",
    "A BELOW<YAJURVEDIC KApAKA iDEPrDrT SVhITA SCHROEDe<xUBf SVhITA<TRIPf.<KApAKA jUDATTA<xT BEL",
    "OW<TWO xTS BELOW<pyE.<RIGVEDIC KASHMIRI iDEPrDrT SVhITA<AphVAVEDIC iDEPrDrT SVhITA;tGN VISh",
    "GA SVhITA=UDATTA<yVeSoVIShGA UDATTA<VIShGA jUDATTA<yVeSoVIShGA jUDATTA<VIShGA UDATTAcTAIL=j",
    "UDATTA.<jUSVhA jThGOMUKv=BAHIRGOMUKv=VAMAGOMUKv>WIp TAIL<uRYAK<HEXIFORM LkG jUSVhA<LkG jUSV",
    "hA<RpjG LkG jUSVhA<jUSVhA UBvYATO MUKv<hDvVIShGA<ROTATohDvVIShGA;TkwCjDRAq;tGN JIHVAMULIYA<",
    "UPADHMjIYA<AuKRAMA;TkwRiGq<xUBf RiGq;tGN xUBf jUSVhA jThGOMUKv~~~~~:LATi nd CAPITl A>AE;d n",
    "TURNED.;nd CAPITl BhRoB>C>D>Ep>E;d nTURNoOPr E>I;nd CAPITl J>K>LcSTROKE>M>yVeSoN>O>OPr O;d ",
    "ntDEWAYS O>OPr O>OcSTROKE=TURNoOE;nd CAPITl OU;d nTOP HlF O=BOTTOM.;nd CAPITl P>yVeSoR>TURN",
    "ED.>T>U;d ntDEWAYS.>DIAeEtZoU>TURNoM;nd CAPITl V>W>Z>EZH<VOICoLhYNGEl SPIRjT<Ai:GyEK nd CAP",
    "ITl GAMMA>LAMDA>PI>RHO>Pt:CYRILLIC nd CAPITl EL:MODIFIe nCAPITl A=AE=B=BhRoB=D=E=yVeSoE=G=H",
    "=I=J=K=L=M=N=yVeSoN=O=OU=P=R=T=U=W<d A=TURNoA=lPv=TURNoAE=B=D=E=SCHWA=OPr E=TURNoOPr E=G=TU",
    "RNoI=K=M=rG=O=OPr O=TOP HlF O=BOTTOM.=P=T=U=tDEWAYS U=TURNoM=V=Ai=BETA=GyEK GAMMA=DELTA=GyE",
    "K PHI=CHI:LATi SUBSCRIPT d nI>R>U>V:GyEK SUBSCRIPT d nBETA>GAMMA>RHO>PHI>CHI:LATi d nUE=BcM",
    "IDDf uLDE=D.=F.=M.=N.=P.=R.?FISHHOOK jD MIDDf uLDE=ScMIDDf uLDE=T.=Z.=TURNoG:MODIFIe nCYRIL",
    "LIC r:LATi d niSULh G=pcSTRIKEpROUGH<zIcSTROKE<nIOTAcSTROKE=P.<zUcSTROKE<nUPtLkcSTROKE=BcPl",
    "ATl HOOK=D.=F.=G.=K.=L.=M.=N.=P.=R.=S.=ESH.=V.=X.=Z.=AcyTROFfX.=lPv.=DcHOOK jD TAIL=EcyTROF",
    "fX HOOK=OPr EcyTROFfX HOOK=yVeSoOPr EcyTROFfX HOOK=SCHWAcyTROFfX HOOK=I.=OPr OcyTROFfX HOOK",
    "=ESHcyTROFfX HOOK=U.=EZH.:MODIFIe nd TURNolPv=C>WIp CURL=Ep=yVeSoOPr E=F=xTfSS JcSTROKE=SCR",
    "IPT G=TURNoH=IcSTROKE=IOTA=CAPITl I?WIp STROKE=JcCROSSED-TAIL=LcyTROFfX HOOK?PlATl.=CAPITl ",
    "L=McHOOK=TURNoMcLkG fG=NcfFT HOOK?yTROFfX.=CAPITl N=BhRoO=PHI=ScHOOK=ESH=TcPlATl HOOK=U Bh=",
    "UPtLk=CAPITl U=VcHOOK=TURNoV=Z>WIp yTROFfX HOOK?CURL=EZH=pETA:COMBiiG xTToGRAVwACCrT<ACUTE.",
    ";SNAKwBELOW;SUSPrtk MhK;MACRk-ACUTE;GRAVE-MACRk;MACRk-GRAVE;ACUTE-MACRk;GRAVE-ACUTE-GRAVE;A",
    "CUTE-GRAVE-ACUTE;LATi d nR BELOW;ByVE-MACRk;MACRk-ByVE;xUBf CIRCUMFfXq;OGkEKq;ZIGZAG BELOW;",
    "IS.;URq;US.;LATi d nFLATTroOPr Aq>AE>AO>AV>C CEDILLA>iSULh D>Ep>G<nd CAPITl G<d nK>L<nd CAP",
    "ITl L?M<d nN<nd CAPITl N?R<d nR ROTUNDA>S>LkG S>Z>lPv>B>BETA>SCHWA>F>LcxUBf MIDDf uLDE>OcL",
    "g CrTRlIZAuk STROKE>P>ESH>UcLg CrTRlIZAuk STROKE>W>AcDIAeEtS>O.>U.;UP TACKq;KAVYKAq Rg=fFT;",
    "xT.;WIDwiVeToBRIDGwBELOW;xT BELOW fFT;DEfuk MhK;xUBf iVeToByVwBELOW;lMOST EQUl TO.;fFT hROW",
    "HEADq;Rg hROWHEAD jD xWN hROWHEAD BELOW:LATi zAcRiG.;d.;zBcxTq;d.;zBcxT BELOW;d.;zBcLiE.;d.",
    ";zCcCEDILLA jD ACUTE;d.;zDcxTq;d.;zDcxT BELOW;d.;zDcLiE.;d.;zDcCEDILLA;d.;zDcCIRCUMFfX BELO",
    "W;d.;zEcMACRk jD GRAVE;d.;zEcMACRk jD ACUTE;d.;zEcCIRCUMFfX BELOW;d.;zEcuLDE.;d.;zEcCEDILL",
    "A jD ByVE;d.;zFcxTq;d.;zGcMACRk;d.;zHcxTq;d.;zHcxT BELOW;d.;zHcDIAeEtS;d.;zHcCEDILLA;d.;zHc",
    "ByVwBELOW;d.;zIcuLDE.;d.;zIcDIAeEtS jD ACUTE;d.;zKcACUTE;d.;zKcxT BELOW;d.;zKcLiE.;d.;zLcxT",
    ".;d.;zLcxT BELOW jD MACRk;d.;zLcLiwBELOW;d.;zLcCIRCUMFfX.;d.;zMcACUTE;d.;zMcxTq;d.;zMcxT BE",
    "LOW;d.;zNcxTq;d.;zNcxT BELOW;d.;zNcLiE.;d.;zNcCIRCUMFfX.;d.;zOcuLDwjD ACUTE;d.;zOcuLDwjD DI",
    "AeEtS;d.;zOcMACRk jD GRAVE;d.;zOcMACRk jD ACUTE;d.;zPcACUTE;d.;zPcxTq;d.;zR.;d.;zRcxT BELOW",
    ";d.;zRcxT BELOW jD MACRk;d.;zRcLiwBELOW;d.;zScxTq;d.;zScxT BELOW;d.;zScACUTwjD xTq;d.;zScCh",
    "k.;d.;zScxT BELOW jD xTq;d.;zTcxTq;d.;zTcxT BELOW;d.;zTcLiE.;d.;zTcCIRCUMFfX.;d.;zUcDIAeEtS",
    ".;d.;zUcuLDE.;d.;zUcCIRCUMFfX.;d.;zUcuLDwjD ACUTE;d.;zUcMACRk jD DIAeEtS;d.;zVcuLDE;d.;zVcx",
    "T BELOW;d.;zWcGRAVE;d.;zWcACUTE;d.;zWcDIAeEtS;d.;zWcxTq;d.;zWcxT BELOW;d.;zXcxTq;d.;zXcDIAe",
    "EtS;d.;zYcxTq;d.;zZcCIRCUMFfX;d.;zZcxT BELOW;d.;zZcLiE.;d.=H.=TcDIAeEtS=WcRiGq=Y.=AcRg HlF ",
    "RiG=LkG ScxTq@DIAGkl STROKE@HIGH.;zSHhP S;d nDELTA;zAcxT BELOW;d.;zAcHOOKq;d.;zAcCIRCUMFfX ",
    "jD ACUTE;d.;zAcCIRCUMFfX jD GRAVE;d.;zAcCIRCUMFfX jD HOOKq;d.;zAcCIRCUMFfX jD uLDE;d.;zAcCI",
    "RCUMFfX jD xT BELOW;d.;zAcByVwjD ACUTE;d.;zAcByVwjD GRAVE;d.;zAcByVwjD HOOKq;d.;zAcByVwjD u",
    "LDE;d.;zAcByVwjD xT BELOW;d.;zEcxT BELOW;d.;zEcHOOKq;d.;zEcuLDE;d.;zEcCIRCUMFfX jD ACUTE;d.",
    ";zEcCIRCUMFfX jD GRAVE;d.;zEcCIRCUMFfX jD HOOKq;d.;zEcCIRCUMFfX jD uLDE;d.;zEcCIRCUMFfX jD ",
    "xT BELOW;d.;zIcHOOKq;d.;zIcxT BELOW;d.;zO.;d.;zOcHOOKq;d.;zOcCIRCUMFfX jD ACUTE;d.;zOcCIRCU",
    "MFfX jD GRAVE;d.;zOcCIRCUMFfX jD HOOKq;d.;zOcCIRCUMFfX jD uLDE;d.;zOcCIRCUMFfX jD xT BELOW;",
    "d.;zOcHORN jD ACUTE;d.;zOcHORN jD GRAVE;d.;zOcHORN jD HOOKq;d.;zOcHORN jD uLDE;d.;zOcHORN j",
    "D xT BELOW;d.;zUcxT BELOW;d.;zUcHOOKq;d.;zUcHORN jD ACUTE;d.;zUcHORN jD GRAVE;d.;zUcHORN j",
    "D HOOKq;d.;zUcHORN jD uLDE;d.;zUcHORN jD xT BELOW;d.;zYcGRAVE;d.;zYcxT BELOW;d.;zYcHOOKq;d.",
    ";zYcuLDE;d.;zMIDDf-WELSH LL;d.;zMIDDf-WELSH V;d.;zYcLOOP;d.:GyEK d nlPvcPtLI?DAtA?PtLI jD V",
    "hIA?DAtA.?PtLI jD OXIA?DAtA.?PtLI jD PeISPOMrI?DAtA.;zlPvcPtLI?DAtA?PtLI jD VhIA?DAtA.?PtL",
    "I jD OXIA?DAtA.?PtLI jD PeISPOMrI?DAtA.;d nEPtLkcPtLI?DAtA?PtLI jD VhIA?DAtA.?PtLI jD OXIA?",
    "DAtA.~~;zEPtLkcPtLI?DAtA?PtLI jD VhIA?DAtA.?PtLI jD OXIA?DAtA.~~;d nETAcPtLI?DAtA?PtLI jD V",
    "hIA?DAtA.?PtLI jD OXIA?DAtA.?PtLI jD PeISPOMrI?DAtA.;zETAcPtLI?DAtA?PtLI jD VhIA?DAtA.?PtL",
    "I jD OXIA?DAtA.?PtLI jD PeISPOMrI?DAtA.;d nIOTAcPtLI?DAtA?PtLI jD VhIA?DAtA.?PtLI jD OXIA?D",
    "AtA.?PtLI jD PeISPOMrI?DAtA.;zIOTAcPtLI?DAtA?PtLI jD VhIA?DAtA.?PtLI jD OXIA?DAtA.?PtLI jD ",
    "PeISPOMrI?DAtA.;d nOMICRkcPtLI?DAtA?PtLI jD VhIA?DAtA.?PtLI jD OXIA?DAtA.~~;zOMICRkcPtLI?DA",
    "tA?PtLI jD VhIA?DAtA.?PtLI jD OXIA?DAtA.~~;d nUPtLkcPtLI?DAtA?PtLI jD VhIA?DAtA.?PtLI jD OX",
    "IA?DAtA.?PtLI jD PeISPOMrI?DAtA.~;zUPtLkcDAtA~@jD VhIA~@jD OXIA~@jD PeISPOMrI;d nOMEGAcPtLI",
    "?DAtA?PtLI jD VhIA?DAtA.?PtLI jD OXIA?DAtA.?PtLI jD PeISPOMrI?DAtA.;zOMEGAcPtLI?DAtA?PtLI j",
    "D VhIA?DAtA.?PtLI jD OXIA?DAtA.?PtLI jD PeISPOMrI?DAtA.;d nlPvcVhIA?OXIA=EPtLkcVhIA?OXIA=ET",
    "AcVhIA?OXIA=IOTAcVhIA?OXIA=OMICRkcVhIA?OXIA=UPtLkcVhIA?OXIA=OMEGAcVhIA?OXIA~~=lPvcPtLI jD Y",
    "POGEGRAMMrI?DAtA.?PtLI jD VhIA jD YPOGEGRAMMrI?DAtA.?PtLI jD OXIA.?DAtA.?PtLI jD PeISPOMrI.",
    "?DAtA.;zlPvcPtLI jD PROSGEGRAMMrI?DAtA.?PtLI jD VhIA jD PROSGEGRAMMrI?DAtA.?PtLI jD OXIA.?D",
    "AtA.?PtLI jD PeISPOMrI.?DAtA.;d nETAcPtLI jD YPOGEGRAMMrI?DAtA.?PtLI jD VhIA jD YPOGEGRAMMr",
    "I?DAtA.?PtLI jD OXIA.?DAtA.?PtLI jD PeISPOMrI.?DAtA.;zETAcPtLI jD PROSGEGRAMMrI?DAtA.?PtLI ",
    "jD VhIA jD PROSGEGRAMMrI?DAtA.?PtLI jD OXIA.?DAtA.?PtLI jD PeISPOMrI.?DAtA.;d nOMEGAcPtLI j",
    "D YPOGEGRAMMrI?DAtA.?PtLI jD VhIA jD YPOGEGRAMMrI?DAtA.?PtLI jD OXIA.?DAtA.?PtLI jD PeISPOM",
    "rI.?DAtA.;zOMEGAcPtLI jD PROSGEGRAMMrI?DAtA.?PtLI jD VhIA jD PROSGEGRAMMrI?DAtA.?PtLI jD OX",
    "IA.?DAtA.?PtLI jD PeISPOMrI.?DAtA.;d nlPvcVRACHY?MACRk?VhIA jD YPOGEGRAMMrI?YPOGEGRAMMrI?OX",
    "IA jD YPOGEGRAMMrI~?PeISPOMrI@jD YPOGEGRAMMrI;zlPvcVRACHY?MACRk?VhIA?OXIA?PROSGEGRAMMrI;KOR",
    "kIS;PROSGEGRAMMrI;PtLI;PeISPOMrI;DIlYuKA jD PeISPOMrI;d nETAcVhIA jD YPOGEGRAMMrI?YPOGEGRAM",
    "MrI?OXIA jD YPOGEGRAMMrI~?PeISPOMrI@jD YPOGEGRAMMrI;zEPtLkcVhIA?OXIA=ETAcVhIA?OXIA?PROSGEGR",
    "AMMrI;PtLI jD VhIA=OXIA=PeISPOMrI;d nIOTAcVRACHY?MACRk?DIlYuKA jD VhIA@jD OXIA~~?PeISPOMrI?",
    "DIlYuKA jD PeISPOMrI;zIOTAcVRACHY?MACRk?VhIA?OXIA~;DAtA jD VhIA=OXIA=PeISPOMrI;d nUPtLkcVRA",
    "CHY?MACRk?DIlYuKA jD VhIA@jD OXIA=RHOcPtLI?DAtA=UPtLkcPeISPOMrI?DIlYuKA jD PeISPOMrI;zUPtLk",
    "cVRACHY?MACRk?VhIA?OXIA=RHOcDAtA;DIlYuKA jD VhIA=OXIA;VhIA~~;d nOMEGAcVhIA jD YPOGEGRAMMrI?",
    "YPOGEGRAMMrI?OXIA jD YPOGEGRAMMrI~?PeISPOMrI@jD YPOGEGRAMMrI;zOMICRkcVhIA?OXIA=OMEGAcVhIA?O",
    "XIA?PROSGEGRAMMrI;OXIA;DAtA"]⟩]

end FieldSchema.Text
