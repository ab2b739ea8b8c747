import FieldSchema.Text.CharName.Listing

/-!
# Names of symbols

The names of the characters from U+2000 to U+2FFF: punctuation, currency signs, arrows,
mathematical operators, shapes, ornaments and patterns of dots.

* `CharName.symbols`: the listings.
-/

namespace FieldSchema.Text

/-- The listings, in the order of the characters. -/
def CharName.symbols : List NameListing := [
  ⟨0x2000, [
    ":r QUAD:EM.:r SPACE:EM.:pyE-Pe-EM.:FOUR-Pe-EM.:tX-Pe-EM.:FIGUy.:PUNCTUAuk.:pi.:vIR.:ZeO WID",
    "p SPACE<Nk-JOie<JOie:fFT-TO-Rg MhK:Rg-TO-fFT.:HYPHr:Nk-ByAKiG HYPHr:FIGURwDASH:r.:EM.:HORIZ",
    "kTl Bh:xUBf VeuCl LiE;LOW.:fFT SiGf QUOTAuk MhK:Rg.:SiGf LOW-9.;HIGH-yVeSED-9.:fFT xUBf.:Rg",
    ".:xUBf LOW-9.;HIGH-yVeSED-9.:DAGGe:xUBf DAGGe:BULfT:TRIjGULh BULfT:kwxT fADe:TWO.:HORIZkTl ",
    "ELLIPtS:HYPHrAuk POiT:LiwSEPhATOR:PhAGRAPH.:fFT-TO-Rg EMBEDDiG:Rg-TO-fFT.:POP DIyCukl FORMA",
    "TTiG:fFT-TO-Rg OVeRIDE:Rg-TO-fFT.:NhROW NO-ByAK SPACE:Pe MILf tGN;Tr pOUSjD tGN:PRIME:xUBf ",
    "PRIME:TRIPf.:yVeSED.;xUBf PRIME;TRIPf.:ChET:SiGf fFT-POiTiG jGf QUOTAuk MhK;Rg-POiTiG.:yFer",
    "CwMhK:xUBf EXCLAMAuk MhK:iTeROBjG:OVeLiE:UNDeuE:CHhACTe uE:ChET iSeuk POiT:ASTeISM:HYPHr BU",
    "LfT:FRACuk SLASH:fFT SQUhwBRACKETcQUILL:Rg.:xUBf QUESuk MhK:QUESuk EXCLAMAuk.:EXCLAMAuk QUE",
    "Suk.:uRkIj tGN ET:yVeSoPILCROW tGN:BLACK fFTs BULfT;Rgs.:LOW ASTeISK:yVeSoSEMICOLk:CLOSwUP:",
    "TWO ASTeISKS lIGNoVeuClLY:COMMeCIl MiUS tGN:SWUNG DASH:iVeToUNDeuE:FLOWe PUNCTUAuk MhK:pywx",
    "T PUNCTUAuk:QUADRUPf PRIME:FOUR xT PUNCTUAuk:FIVE.:TWO.:FOUR xT MhK:xTToCROSS:TRICOLk:VeuC",
    "l FOUR xTS:MEDIUM MApEMAuCl SPACE:WORD JOie:FUNCuk APPLICAuk:iVItBf uMES;SEPhATOR;PLUS~:fFT",
    "-TO-Rg ISOLATE:Rg-TO-fFT.:FIRST STRkG ISOLATE:POP DIyCukl.:iHIBIT SYMMETRIC SWAPPiG:ACuVATE",
    ".:iHIBIT hABIC FORM SvPiG:ACuVATE.:NAukl DIGIT SvPES:NOMil.:SUPeSCRIPT ZeO;LATi d nI~~;FOUR",
    ";FIVE;tX;SEVr;Eg;NiE;PLUS tGN;MiUS;EQUlS tGN;fFT PhrpEtS;Rg.;LATi d nN:SUBSCRIPT ZeO;kE;TWO",
    ";pyE;FOUR;FIVE;tX;SEVr;Eg;NiE;PLUS tGN;MiUS;EQUlS tGN;fFT PhrpEtS;Rg.~:LATi SUBSCRIPT d nA>",
    "E>O>X>SCHWA>H>K>L>M>N>P>S>T~~~:EURO-CURRrCY tGN:COLk.:CRUZEIRO.:FRrCH FRjC tGN:LIRA tGN:MIL",
    "L.:NAIRA.:PESETA.:RUPEE.:Wk.:NEW SHEQEL tGN:DkG tGN:EURO.:KIP.:TUGRIK.:DRACHMA.:GeMj PrNY t",
    "GN:PESO tGN:GUhjI.:AUSTRl.:HRYVNIA.:CEDI.:LIVRwTOURNOIS tGN:SPESMILO tGN:TrGE.:iDIj RUPEwtG",
    "N:TURKISH LIRA.:NORDIC MhK.:MjAT tGN:RUBf.:LhI.:BITCOi.:SOM."]⟩,
  ⟨0x20D0, [
    ":COMBiiG fFT HhPOkq;Rg.;LkG VeuCl LiwOVeLAY;SHORT.;juCLOCKWISwhROWq;CLOCKWISE.;fFT.;Rg.;Ri",
    "G OVeLAY;CLOCKWISwRiG OVeLAY;juCLOCKWISE.;pywxTSq;FOUR.;rCLOSiG CIRCf<SQUhE<DIAMkD<CIRCf BA",
    "CKSLASH;fFT Rg hROWq;rCLOSiG SCyr<KEYCAP<UPWhD POiTiG TRIjGf;yVeSwSOLIDUS OVeLAY;xUBf VeuC",
    "l STROKwOVeLAY;jNUITY SYMBOL;TRIPf UNDexT;WIDwBRIDGEq;fFTs hROW OVeLAY;LkG xUBf SOLIDUS OVe",
    "LAY;Rgs HhPOkcBhB xWNs;fFTs.;fFT hROW BELOW;Rg.;ASTeISKq"]⟩,
  ⟨0x2100, [
    ":ACCOUNT OF:ADDySSoTO pwSUBJECT:xUBf-STRUCK CAPITl C:DEGywCELtUS:CrTRwLiwSYMBOL:ChwOF:CADA ",
    "UNA:EULe CkSTjT:SCRUPf:DEGywFAHRrHEIT:SCRIPT d G;CAPITl H:BLACK-fTTe.:xUBf-STRUCK.:PLjCK Ck",
    "STjT<OVe TWO PI:SCRIPT CAPITl I:BLACK-fTTe.:SCRIPT CAPITl L;d.:L B Bh SYMBOL:xUBf-STRUCK CA",
    "PITl N:NUMeO tGN:SOUND yCORDiG COPYRg:SCRIPT CAPITl P:xUBf-STRUCK.<Q:SCRIPT CAPITl R:BLACK-",
    "fTTe.:xUBf-STRUCK.:PySCRIPuk TAKE:ySPkSE:SeVICwMhK:TEfPHkwtGN:TRADwMhK tGN:VetCf:xUBf-STRUC",
    "K CAPITl Z:OUNCwtGN:OHM.:iVeToOHM tGN:BLACK-nCAPITl Z:TURNoGyEK d nIOTA:KELVi tGN:jGSTROM.:",
    "SCRIPT CAPITl B:BLACK-nCAPITl C:ESuMAToSYMBOL:SCRIPT d E;CAPITl.<F:TURNED.:SCRIPT CAPITl M;",
    "d O:AfF SYMBOL:BET.:GIMEL.:DAfT.:iFORMAuk SOURCE:ROTAToCAPITl Q:FACtMIf tGN:xUBf-STRUCK d P",
    "I<GAMMA;CAPITl.<PI;N-hY SUMMAuk:TURNoSjS-SeIF CAPITl G=L:yVeSED.:TURNoSjS-SeIF CAPITl Y:xUB",
    "f-STRUCK ITlIC CAPITl D<d.=E=I=J:PROPeTY LiE:TURNoAMPeSjD:Pe tGN:AKuESELSKAB:TURNod F:SYMBO",
    "L FOR SAMhITj SOURCE:VULGh FRACuk kwSEVrp=Nip=Trp=pIRD<TWO pIRDS<kwFIFp<TWO FIFpS<pyE.<FOUR",
    ".<kwtXp<FIVwtXpS<kwEgH<pywEgHS<FIVE.<SEVr.:FRACuk NUMeATOR kE:ROMj NUMel.<TWO<pyE<FOUR<FIVE",
    "<tX<SEVr<Eg<NiE<Tr<EfVr<TWELVE<FIFTY<kwHUNDyD<FIVE.<kwpOUSjD:d ROMj NUMel kE=TWO=pyE=FOUR=F",
    "IVE=tX=SEVr=Eg=NiE=Tr=EfVr=TWELVE=FIFTY=kwHUNDyD=FIVE.=kwpOUSjD:ROMj NUMel kwpOUSjD C D<FIV",
    "wpOUSjD<Tr.<yVeSokwHUNDyD:LATi d nyVeSoC:ROMj NUMel tX LATwFORM<FIFTY EhLY.=pOUSjD<kwHUNDRo",
    "pOUSjD:VULGh FRACuk ZeO pIRDS:TURNoDIGIT TWO<pyE~~~~:fFTs hROW:UPs.:Rgs.:xWNs.:fFT Rg hROW:",
    "UP xWN.:NORp WEST.;EAST.:SOUp.;WEST.:fFTs hROWcSTROKE:Rgs.:fFTs WAVwhROW:Rgs.:fFTs TWO HEAD",
    "ohROW:UPs.:Rgs.:xWNs.:fFTs hROWcTAIL:Rgs.:fFTs hROW FROM Bh:UPs.:Rgs.:xWNs.:UP xWN hROWcBAS",
    "E:fFTs hROWcHOOK:Rgs.:fFTs hROWcLOOP:Rgs.:fFT Rg WAVwhROW<hROWcSTROKE:xWNs ZIGZAG hROW:UPs ",
    "hROWcuP fFTs>Rgs:xWNs hROWcuP fFTs>Rgs:Rgs hROWcCORNe xWNs:xWNs hROWcCORNe fFTs:juCLOCKWISw",
    "TOP SEMICIRCf hROW:CLOCKWISE.:NORp WEST hROW TO LkG Bh:fFTs hROW TO Bh OVe Rgs hROW TO Bh:j",
    "uCLOCKWISwOPr CIRCf hROW:CLOCKWISE.:fFTs HhPOkcBhB UPs>xWNs:UPs HhPOkcBhB Rgs>fFTs:Rgs HhPO",
    "kcBhB UPs>xWNs:xWNs HhPOkcBhB Rgs>fFTs:Rgs hROW OVe fFTs hROW:UPs hROW fFTs OF xWNs hROW:fF",
    "Ts hROW OVe Rgs hROW;PAIRohROWS:UPs.:Rgs.:xWNs.:fFTs HhPOk OVe Rgs HhPOk:Rgs HhPOk OVe fFTs",
    ".:fFTs xUBf hROWcSTROKE:fFT Rg xUBf hROWcSTROKE:Rgs xUBf hROWcSTROKE:fFTs xUBf hROW:UPs.:Rg",
    "s.:xWNs.:fFT Rg xUBf hROW:UP xWN.:NORp WEST.;EAST.:SOUp.;WEST.:fFTs TRIPf hROW:Rgs.:fFTs SQ",
    "UIGGf.:Rgs.:UPs hROWcxUBf STROKE:xWNs.:fFTs DASHohROW:UPs.:Rgs.:xWNs.:fFTs hROW TO Bh:Rgs.:",
    "fFTs WHITwhROW:UPs.:Rgs.:xWNs.:UPs WHITwhROW FROM Bh=k PEDESTl?WIp HORIZkTl Bh@VeuCl.<xUBf ",
    "hROW>k PEDESTl:Rgs WHITwhROW FROM WlL:NORp WEST hROW TO CORNe:SOUp EAST.:UP xWN WHITwhROW:R",
    "g hROWcd CIRCf:xWNs hROW fFTs OF UPs hROW:pywRgs hROWS:fFTs hROWcVeuCl STROKE:Rgs.:fFT Rg h",
    "ROWcVeuCl STROKE:fFTs hROWcxUBf.:Rgs.:fFT Rg hROWcxUBf VeuCl STROKE:fFTs OPr-HEADohROW:Rgs.",
    ":fFT Rg OPr-HEADohROW:FOR lL:COMPfMrT:Phul DIFFerul:pewEXISTS;xES NOT EXIST:EMPTY SET:iCyMr",
    "T:NABLA:EfMrT OF:NOT j EfMrT OF:d EfMrT OF:CkTAiS AS MEMBe:xES NOT CkTAi AS MEMBe:d CkTAiS ",
    "AS MEMBe:rD OF PROOF:N-hY PRODUCT;COPRODUCT;SUMMAuk:MiUS tGN:MiUS-OR-PLUS.:xT PLUS:DIVItk S",
    "LASH:SET MiUS:ASTeISK OPeATOR:RiG.:BULfT.:SQUhwROOT:CUBE.:FOURp.:PROPORukl TO:iFiITY:Rg jGf",
    ":jGf:MEASURojGf:SPHeICl.:DIVIDES:xES NOT DIVIDE:PhlfL TO:NOT PhlfL TO:LOGICl jD;OR:iTeSECuk",
    ":UNIk:iTEGRl:xUBf iTEGRl:TRIPf.:CkTOUR.:SURFACE.:VOLUME.:CLOCKWISE.;CkTOUR iTEGRl:juCLOCKWI",
    "SE.:peEFOy:BECAUSE:RAuO:PROPORuk:xT MiUS:EXCESS:GEOMETRIC PROPORuk:HOMOpEuC:uLDwOPeATOR:yVe",
    "SouLDE:iVeToLAZY S:SiwWAVE:WyAp PRODUCT:NOT uLDE:MiUS.:ASYMPTOuClLY EQUl TO:NOT ASYMPTOuClL",
    "Y EQUl TO:APPROXIMATELY EQUl TO;BUT NOT ACTUlLY EQUl TO:NEIpe APPROXIMATELY NOR.:lMOST EQU",
    "l TO:NOT lMOST EQUl TO:lMOST EQUl OR EQUl TO:TRIPf uLDE:lL EQUl TO:EQUIVAfNT TO:GEOMETRIClL",
    "Y EQUIVAfNT TO:DIFFerCwBETWEr:APPROACHES pwLIMIT:GEOMETRIClLY EQUl TO:APPROXIMATELY EQUl T",
    "O OR pwIMAGwOF:IMAGwOF OR APPROXIMATELY EQUl TO:COLk EQUlS:EQUlS COLk:RiG i EQUl TO;EQUl TO",
    ":CORySPkDS TO:ESuMATES:EQUIjGULh TO:STh EQUlS:DELTA EQUl TO:EQUl TO BY DEFiIuk:MEASURoBY:QU",
    "ESukoEQUl TO:NOT.:IDruCl TO:NOT IDruCl TO:STRICTLY EQUIVAfNT.:fSS-pj OR EQUl TO:GyATe-pj.:f",
    "SS-pj OVe.:GyATe-pj.:fSS-pj BUT NOT EQUl TO:GyATe-pj.:MUCH fSS-pj;GyATe-pj:BETWEr:NOT EQUIV",
    "AfNT TO;fSS-pj;GyATe-pj:NEIpe fSS-pj NOR EQUl TO;GyATe-pj.:fSS-pj OR EQUIVAfNT TO:GyATe-pj.",
    ":NEIpe fSS-pj NOR EQUIVAfNT TO;GyATe-pj.:fSS-pj OR GyATe-pj:GyATe-pj OR fSS-pj:NEIpe fSS-p",
    "j NOR GyATe-pj;GyATe-pj NOR fSS-pj:PyCEDES:SUCCEEDS:PyCEDES OR EQUl TO:SUCCEEDS.:PyCEDES O",
    "R EQUIVAfNT.:SUCCEEDS.:xES NOT PyCEDE<SUCCEED:SUBSET OF:SUPeSET.:NOT A SUBSET OF<SUPeSET.:S",
    "UBSET OF OR EQUl TO:SUPeSET.:NEIpe A SUBSET OF NOR EQUl TO<SUPeSET.:SUBSET OFcNOT EQUl TO:S",
    "UPeSET.:MULuSET;MULuPLICAuk;UNIk:SQUhwIMAGwOF;ORIGil.;IMAGwOF OR EQUl TO;ORIGil.;CAP;CUP:CI",
    "RCfD PLUS;MiUS;uMES;DIVItk SLASH;xT OPeATOR;RiG.;ASTeISK.;EQUlS;DASH:SQUhoPLUS;MiUS;uMES;x",
    "T OPeATOR:Rg TACK:fFT.:xWN.:UP.:ASSeuk:MODELS:TRUE:FORCES:TRIPf VeuCl Bh Rg TURNSuf:xUBf Ve",
    "uCl Bh xUBf Rg TURNSuf:xES NOT PROVE:NOT TRUE:xES NOT FORCE:NEGAToxUBf VeuCl Bh xUBf Rg TUR",
    "NSuf:PyCEDES UNDe yLAuk:SUCCEEDS.:NORMl SUBGROUP OF:CkTAiS AS NORMl SUBGROUP:NORMl SUBGROU",
    "P OF OR EQUl TO:CkTAiS AS NORMl SUBGROUP OR EQUl TO:ORIGil OF:IMAGE.:MULuMAP:HeMIuj CkJUGAT",
    "wMATRIX:iTeClATE:XOR:NjD:NOR:Rg jGfchC;TRIjGf:N-hY LOGICl jD<OR;iTeSECuk;UNIk:DIAMkD OPeATO",
    "R:xT.:STh.:DIVItk uMES:BOWuE:fFT NORMl FACTOR SEMIDIyCT PRODUCT:Rg.:fFT SEMIDIyCT PRODUCT:R",
    "g.:yVeSouLDwEQUlS:CURLY LOGICl OR<jD:xUBf SUBSET;SUPeSET;iTeSECuk;UNIk:PITCHFORK:EQUl jD Ph",
    "lfL TO:fSS-pjcxT:GyATe-pj.:VeY MUCH fSS-pj<GyATe-pj:fSS-pj EQUl TO OR GyATe-pj:GyATe-pj EQU",
    "l TO OR fSS-pj:EQUl TO OR fSS-pj=GyATe-pj=PyCEDES=SUCCEEDS:xES NOT PyCEDwOR EQUl<SUCCEED.:N",
    "OT SQUhwIMAGwOF OR EQUl TO<ORIGil.:SQUhwIMAGwOF OR NOT.;ORIGil.:fSS-pj BUT NOT EQUIVAfNT TO",
    ":GyATe-pj.:PyCEDES.:SUCCEEDS.:NOT NORMl SUBGROUP OF:xES NOT CkTAi AS NORMl SUBGROUP:NOT NOR",
    "Ml SUBGROUP OF OR EQUl TO:xES NOT CkTAi AS NORMl SUBGROUP OR EQUl:VeuCl ELLIPtS:MIDLiwHORIZ",
    "kTl ELLIPtS:UP Rg DIAGkl ELLIPtS:xWN.:EfMrT OFcLkG HORIZkTl STROKE=VeuCl Bh AT rD OF HORIZk",
    "Tl STROKE:d EfMrT OFcVeuCl Bh AT rD OF HORIZkTl STROKE:EfMrT OFcxTq=OVeBh:d EfMrT OFcOVeBh:",
    "EfMrT OFcUNDeBh=TWO HORIZkTl STROKES:CkTAiScLkG HORIZkTl STROKE<VeuCl Bh AT rD OF HORIZkTl ",
    "STROKE:d CkTAiScVeuCl Bh AT rD OF HORIZkTl STROKE:CkTAiScOVeBh:d CkTAiScOVeBh:Z NOTAuk BAG ",
    "MEMBeSHIP:DIAMETe tGN:EfCTRIC hROW:HOUSE:UP hROWHEAD:xWN.:PROJECuVE:PeSPECuVE:WAVY LiE:fFT ",
    "CEILiG:Rg.:fFT FLOOR:Rg.:BOTTOM Rg CROP;fFT.:TOP Rg.;fFT.:yVeSoNOT tGN:SQUhwLOZrGE:hC:SEGMr",
    "T:SECTOR:TEfPHkwyCORDe:POtuk iDICATOR:VIEWDATA SQUhE:PLACwOF iTeEST tGN:TURNoNOT tGN:WATCH:",
    "HOURGLASS:TOP fFT CORNe;Rg.:BOTTOM fFT.;Rg.:TOP HlF iTEGRl:BOTTOM.:FROWN:SMIf:UP hROWHEAD B",
    "ETWEr TWO HORIZkTl BhS:OPuk KEY:eASwTO pwRg:X i A yCTjGf BOX:KEYBOhD:fFT-POiTiG jGf BRACKET",
    ":Rg-POiTiG.:eASwTO pwfFT:BrZrwRiG:CYLiDRICITY:lL hOUND-PROFIf:SYMMETRY:TOTl RUNOUT:DIMrtk O",
    "RIGi:CkICl TAPe:SLOPE:COUNTeBOy:COUNTeSiK:APL FUNCukl SYMBOL I-BEAM=SQUISH QUAD=QUAD EQUl>D",
    "IVIDE>DIAMkD>JOT>CIRCf=CIRCf Suf>JOT=SLASH Bh=BACKSLASH.=QUAD SLASH>BACKSLASH>fSS-pj>GyATe-",
    "pj=fFTs VjE=Rgs.=QUAD fFTs hROW>Rgs.=CIRCf BACKSLASH=xWN TACK UNDeBh=DELTA Suf=QUAD xWN ChE",
    "T>DELTA=xWN TACK JOT=UPs VjE=QUAD UPs hROW=UP TACK OVeBh=DEL Suf=QUAD UP ChET>DEL=UP TACK J",
    "OT=xWNs VjE=QUAD xWNs hROW=QUOTwUNDeBh=DELTA.=DIAMkD.=JOT.=CIRCf.=UP SHOwJOT=QUOTwQUAD=CIRC",
    "f STh=QUAD COLk=UP TACK DIAeEtS=DEL DIAeEtS=STh.=JOT.=CIRCf.=xWN SHOwSuf=fFT.=uLDwDIAeEtS=G",
    "yATe-pj.=COMMA Bh=DEL uLDE=ZILDE=Suf uLDE=SEMICOLk UNDeBh=QUAD NOT EQUl>QUESuk=xWN ChET uLD",
    "E=UP.=IOTA=RHO=OMEGA=lPv UNDeBh=EPtLk.=IOTA.=OMEGA.=lPv:NOT CHECK MhK:Rg jGfcxWNs ZIGZAG hR",
    "OW:SHOULDeoOPr BOX:BELL SYMBOL:VeuCl LiEcMIDDf xT:iSeuk SYMBOL:CkTiUOUS UNDeLiwSYMBOL:DISCk",
    "TiUOUS.:EMPvtS SYMBOL:COMPOtuk.:WHITwSQUhEcCrTRwVeuCl LiE:rTe SYMBOL:lTeNAuVwKEY SYMBOL:HEL",
    "M SYMBOL:CIRCfD HORIZkTl BhcNOTCH;TRIjGf xWN:BROKr CIRCfcNORpWEST hROW:UNx SYMBOL:MkOSTABf.",
    ":HYSTeEtS.:OPr-CIRCUIT-OUTPUT H-TYPwSYMBOL;L-TYPE.:PAStVE-PULL-xWN-OUTPUT SYMBOL:PAStVE-PUL",
    "L-UP-OUTPUT.:DIyCT CURRrT SYMBOL FORM TWO:SOFTWhE-FUNCuk SYMBOL:APL FUNCukl SYMBOL QUAD:DEC",
    "IMl SEPhATOR KEY SYMBOL:PyVIOUS PAGE:NEXT.:PRiT SCyr SYMBOL:Cfh.:fFT PhrpEtS UPPe HOOK<EXTr",
    "tk<LOWe HOOK:Rg PhrpEtS UPPe.<EXTrtk<LOWe HOOK:fFT SQUhwBRACKET UPPe CORNe=EXTrtk=LOWe CORN",
    "e:Rg SQUhwBRACKET UPPe.=EXTrtk=LOWe CORNe:fFT CURLY BRACKET UPPe HOOK=MIDDf PIECE=LOWe HOOK",
    ":CURLY BRACKET EXTrtk:Rg CURLY BRACKET UPPe HOOK=MIDDf PIECE=LOWe HOOK:iTEGRl EXTrtk:HORIZk",
    "Tl LiwEXTrtk:UPPe fFT OR LOWe Rg CURLY BRACKET SECuk;Rg OR LOWe fFT.:SUMMAuk TOP;BOTTOM:TO",
    "P SQUhwBRACKET:BOTTOM.=OVe TOP SQUhwBRACKET:RADICl SYMBOL BOTTOM:fFT VeuCl BOX LiE:Rg.:HORI",
    "ZkTl SCj LiE-1<LiE-3<LiE-7<LiE-9:DruSTRY SYMBOL Lg VeuCl jD TOP Rg?BOTTOM.>WIp CIRCf=xWN j",
    "D HORIZkTlcCIRCf=UP.=VeuClcTRIjGf=xWN jD HORIZkTlcTRIjGf=UP.=VeuCl jD WAVE=xWN jD HORIZkTlc",
    "WAVE=UP.=xWN jD HORIZkTl=UP.=VeuCl jD TOP fFT?BOTTOM.:SQUhwFOOT:yTURN SYMBOL:EJECT.:VeuCl L",
    "iwEXTrtk:METRICl ByVE;LkG OVe SHORT;SHORT OVe LkG;LkG OVe TWO SHORTS;TWO SHORTS OVe LkG=JOi",
    "ED;TRISEME;TETRASEME;PrTASEME:Ehp GROUND:FUSE:TOP PhrpEtS:BOTTOM.:TOP CURLY BRACKET:BOTTOM.",
    ":TOP TORTOISwSHELL BRACKET:BOTTOM.:WHITwTRAPEZIUM:BrZrwRiGcCIRCf:STRAgNESS:FLATNESS:AC CURR",
    "rT:EfCTRICl iTeSECuk:DECIMl EXPkrT SYMBOL:BLACK Rg-POiTiG xUBf TRIjGf;fFT-POiTiG.;UP-POiTiG",
    ".;xWN-POiTiG.;Rg-POiTiG xUBf TRIjGfcVeuCl Bh;fFT-POiTiG.;Rg-POiTiG TRIjGfcxUBf.:lhM CLOCK:S",
    "TOPWATCH:uMe CLOCK:HOURGLASScFLOWiG SjD:BLACK MEDIUM fFT-POiTiG TRIjGf<Rg-POiTiG.<UP-POiTiG",
    ".<xWN-POiTiG.:xUBf VeuCl Bh:BLACK SQUhwFOR STOP;CIRCf FOR yCORD:POWe SYMBOL;k-OFF SYMBOL;k.",
    ";SfEP.:OBSeVe EYE.:SYMBOL FOR NULL<SThT OF HEADiG>TEXT<rD.>TRjSMIStk<rQUIRY<ACKNOWfDGE<BELL",
    "<BACKSPACE<HORIZkTl TABULAuk<LiwFEED<VeuCl TABULAuk<FORM FEED<ChRIAGwyTURN<SHIFT OUT=i<DAT",
    "A LiK ESCAPE<DEVICwCkTROL kE>TWO>pyE>FOUR<NEGAuVwACKNOWfDGE<SYNCHRkOUS IDf<rD OF TRjSMIStk ",
    "BLOCK<CjCEL<rD OF MEDIUM<SUBSuTUTE<ESCAPE<FIf SEPhATOR<GROUP.<yCORD.<UNIT.<SPACE<DEfTE:BLj",
    "K SYMBOL:OPr BOX:SYMBOL FOR NEWLiE<DEfTwFORM TWO<SUBSuTUTE."]⟩,
  ⟨0x2440, [
    ":OCR HOOK;CvIR;FORK;iVeToFORK;BELT BUCKf;BOW uE;BRjCH BjK IDruFICAuk;AMOUNT OF CHECK;DASH;C",
    "USTOMe ACCOUNT NUMBe;xUBf BACKSLASH"]⟩,
  ⟨0x2460, [
    ":CIRCfD DIGIT kE<TWO<pyE<FOUR<FIVE<tX<SEVr<Eg<NiE;NUMBe Tr<EfVr<TWELVE<pIRTEr<FOURTEr<FIFTE",
    "r<tXTEr<SEVrTEr<EgEr<NiETEr<TWrTY:PhrpEtZoDIGIT kE<TWO<pyE<FOUR<FIVE<tX<SEVr<Eg<NiE;NUMBe T",
    "r<EfVr<TWELVE<pIRTEr<FOURTEr<FIFTEr<tXTEr<SEVrTEr<EgEr<NiETEr<TWrTY:DIGIT kwFULL STOP;TWO.;",
    "pyE.;FOUR.;FIVE.;tX.;SEVr.;Eg.;NiE.:NUMBe Tr.;EfVr.;TWELVE.;pIRTEr.;FOURTEr.;FIFTEr.;tXTEr.",
    ";SEVrTEr.;EgEr.;NiETEr.;TWrTY.:PhrpEtZoLATi d nA>B>C>D>E>F>G>H>I>J>K>L>M>N>O>P>Q>R>S>T>U>V>",
    "W>X>Y>Z:CIRCfD LATi zA>B>C>D>E>F>G>H>I>J>K>L>M>N>O>P>Q>R>S>T>U>V>W>X>Y>Z<d nA>B>C>D>E>F>G>H",
    ">I>J>K>L>M>N>O>P>Q>R>S>T>U>V>W>X>Y>Z;DIGIT ZeO:NEGAuVwCIRCfD NUMBe EfVr=TWELVE=pIRTEr=FOURT",
    "Er=FIFTEr=tXTEr=SEVrTEr=EgEr=NiETEr=TWrTY:xUBf CIRCfD DIGIT kE=TWO=pyE=FOUR=FIVE=tX=SEVr=Eg",
    "=NiE<NUMBe Tr:NEGAuVwCIRCfD DIGIT ZeO:BOX DRAWiGS Lg HORIZkTl<HEAVY.<Lg VeuCl<HEAVY.<Lg TRI",
    "Pf DASH HORIZkTl<HEAVY.<Lg TRIPf DASH VeuCl<HEAVY.<Lg QUADRUPf DASH HORIZkTl<HEAVY.<Lg QUAD",
    "RUPf DASH VeuCl<HEAVY.<Lg xWN jD Rg<xWN Lg jD Rg HEAVY=HEAVY jD Rg Lg<HEAVY xWN jD Rg<Lg xW",
    "N jD fFT<xWN Lg jD fFT HEAVY=HEAVY jD fFT Lg<HEAVY xWN jD fFT<Lg UP jD Rg<UP Lg jD Rg HEAVY",
    "=HEAVY jD Rg Lg<HEAVY UP jD Rg<Lg UP jD fFT<UP Lg jD fFT HEAVY=HEAVY jD fFT Lg<HEAVY UP jD ",
    "fFT<Lg VeuCl jD Rg<VeuCl Lg jD Rg HEAVY<UP HEAVY jD Rg xWN Lg<xWN HEAVY jD Rg UP.<VeuCl HEA",
    "VY jD Rg Lg<xWN Lg jD Rg UP HEAVY<UP Lg jD Rg xWN.<HEAVY VeuCl jD Rg<Lg VeuCl jD fFT<VeuCl ",
    "Lg jD fFT HEAVY<UP HEAVY jD fFT xWN Lg<xWN HEAVY jD fFT UP.<VeuCl HEAVY jD fFT Lg<xWN Lg j",
    "D fFT UP HEAVY<UP Lg jD fFT xWN.<HEAVY VeuCl jD fFT<Lg xWN jD HORIZkTl<fFT HEAVY jD Rg xWN ",
    "Lg<Rg HEAVY jD fFT.<xWN Lg jD HORIZkTl HEAVY=HEAVY jD HORIZkTl Lg<Rg Lg jD fFT xWN HEAVY<fF",
    "T Lg jD Rg.<HEAVY xWN jD HORIZkTl<Lg UP.<fFT HEAVY jD Rg UP Lg<Rg HEAVY jD fFT.<UP Lg jD HO",
    "RIZkTl HEAVY=HEAVY jD HORIZkTl Lg<Rg Lg jD fFT UP HEAVY<fFT Lg jD Rg.<HEAVY UP jD HORIZkTl<",
    "Lg VeuCl.<fFT HEAVY jD Rg VeuCl Lg<Rg HEAVY jD fFT.<VeuCl Lg jD HORIZkTl HEAVY<UP HEAVY jD ",
    "xWN HORIZkTl Lg<xWN HEAVY jD UP.<VeuCl HEAVY jD HORIZkTl Lg<fFT UP HEAVY jD Rg xWN Lg<Rg U",
    "P HEAVY jD fFT.<fFT xWN HEAVY jD Rg UP.<Rg xWN HEAVY jD fFT.<xWN Lg jD UP HORIZkTl HEAVY<U",
    "P Lg jD xWN.<Rg Lg jD fFT VeuCl.<fFT Lg jD Rg.<HEAVY VeuCl jD HORIZkTl<Lg xUBf DASH.<HEAVY.",
    "<Lg xUBf DASH VeuCl<HEAVY.<xUBf HORIZkTl=VeuCl<xWN SiGf jD Rg xUBf=xUBf jD Rg SiGf<xUBf xW",
    "N jD Rg<xWN SiGf jD fFT xUBf=xUBf jD fFT SiGf<xUBf xWN jD fFT<UP SiGf jD Rg xUBf=xUBf jD R",
    "g SiGf<xUBf UP jD Rg<UP SiGf jD fFT xUBf=xUBf jD fFT SiGf<xUBf UP jD fFT<VeuCl SiGf jD Rg x",
    "UBf=xUBf jD Rg SiGf<xUBf VeuCl jD Rg<VeuCl SiGf jD fFT xUBf=xUBf jD fFT SiGf<xUBf VeuCl jD ",
    "fFT<xWN SiGf jD HORIZkTl xUBf=xUBf jD HORIZkTl SiGf<xUBf xWN jD HORIZkTl<UP SiGf jD HORIZkT",
    "l xUBf=xUBf jD HORIZkTl SiGf<xUBf UP jD HORIZkTl<VeuCl SiGf jD HORIZkTl xUBf=xUBf jD HORIZk",
    "Tl SiGf<xUBf VeuCl jD HORIZkTl<Lg hC xWN jD Rg@fFT>UP.@Rg=DIAGkl UPPe Rg TO LOWe fFT?fFT T",
    "O LOWe Rg>CROSS=fFT=UP=Rg=xWN<HEAVY fFT=UP=Rg=xWN<Lg fFT jD HEAVY Rg=UP jD HEAVY xWN<HEAVY ",
    "fFT jD Lg Rg=UP jD Lg xWN:UPPe HlF BLOCK:LOWe kwEgH BLOCK<QUhTe.;pywEgHS.;HlF BLOCK;FIVwEgH",
    "S BLOCK;pywQUhTeS.;SEVr EgHS.:FULL BLOCK:fFT SEVr EgHS BLOCK;pywQUhTeS.;FIVwEgHS.;HlF BLOCK",
    ";pywEgHS BLOCK;kwQUhTe.<EgH.:Rg HlF BLOCK:Lg SvDE:MEDIUM.:DhK.:UPPe kwEgH BLOCK:Rg.:QUADRj",
    "T LOWe fFT<Rg;UPPe fFT=jD LOWe fFT jD LOWe Rg?Rg>UPPe Rg jD LOWe fFT@jD LOWe Rg<Rg=jD LOWe ",
    "fFT@jD LOWe Rg:BLACK SQUhE:WHITE.<WIp ROUNDoCORNeS<CkTAiiG BLACK d SQUhE:SQUhEcHORIZkTl FIL",
    "L<VeuCl.<ORpOGkl CROSSvTCH FILL<UPPe fFT TO LOWe Rg FILL=Rg TO LOWe fFT.<DIAGkl CROSSvTCH F",
    "ILL:BLACK d SQUhE:WHITE.:BLACK yCTjGf:WHITE.:BLACK VeuCl yCTjGf:WHITE.:BLACK PhlfLOGRAM:WHI",
    "TE.:BLACK UP-POiTiG TRIjGf:WHITE.:BLACK UP-POiTiG d TRIjGf:WHITE.:BLACK Rg-POiTiG TRIjGf:WH",
    "ITE.:BLACK Rg-POiTiG d TRIjGf:WHITE.:BLACK Rg-POiTiG POiTe:WHITE.:BLACK xWN-POiTiG TRIjGf:W",
    "HITE.:BLACK xWN-POiTiG d TRIjGf:WHITE.:BLACK fFT-POiTiG TRIjGf:WHITE.:BLACK fFT-POiTiG d TR",
    "IjGf:WHITE.:BLACK fFT-POiTiG POiTe:WHITE.:BLACK DIAMkD:WHITE.<CkTAiiG BLACK d DIAMkD:FISHEY",
    "E:LOZrGE:WHITwCIRCf:xTTED.:CIRCfcVeuCl FILL:BULLSEYE:BLACK CIRCf:CIRCfcfFT HlF BLACK<Rg.<LO",
    "We.<UPPe.=Rg QUADRjT BLACK<lL BUT UPPe fFT QUADRjT BLACK:fFT HlF BLACK CIRCf:Rg.:iVeSwBULfT",
    ";WHITwCIRCf:UPPe HlF iVeSwWHITwCIRCf:LOWe.:UPPe fFT QUADRjT CIRCULh hC;Rg.:LOWe.;fFT.:UPPe ",
    "HlF CIRCf:LOWe.:BLACK LOWe Rg TRIjGf<fFT.;UPPe.<Rg.:WHITwBULfT:SQUhEcfFT HlF BLACK<Rg.<UPP",
    "e fFT DIAGkl HlF BLACK<LOWe Rg.:WHITwSQUhEcVeuCl BISECTiG LiE;UP-POiTiG TRIjGfcxT:UP-POiTi",
    "G TRIjGfcfFT HlF BLACK=Rg.:LhGwCIRCf:WHITwSQUhEcUPPe fFT QUADRjT=LOWe.>Rg.=UPPe.;CIRCfcUPP",
    "e fFT.=LOWe.>Rg.=UPPe.:UPPe fFT TRIjGf;Rg.:LOWe fFT.:WHITwMEDIUM SQUhE:BLACK.:WHITwMEDIUM ",
    "d SQUhE:BLACK.:LOWe Rg TRIjGf:BLACK SUNcRAYS:CLOUD:UMByLLA:SNOWMj:COMET:BLACK STh:WHITE.:Lg",
    "NiG:pUNDeSTORM:SUN:ASCrDiG NODE:DESCrDiG.:CkJUNCuk:OPPOtuk:BLACK TEfPHkE:WHITE.:BlLOT BOX<W",
    "Ip CHECK=X:Sluy:UMByLLAcRAi DROPS:HOT BEVeAGE:WHITwSHOGI PIECE:BLACK.:SvMROCK:yVeSoROTAToFL",
    "ORl HEhT BULfT:BLACK fFT POiTiG iDEX;Rg.:WHITwfFT.;UP.;Rg.;xWN.:SKULL jD CROSSBkES:CAUuk tG",
    "N:RADIOACuVE.:BIOvZhD.:CADUCEUS:jKH:ORpOxX CROSS:CHI RHO:CROSS OF LORRAiE<JeUSAfM:STh jD Cy",
    "SCrT:Fht SYMBOL:ADI SvKu:vMMe jD tCKf:PEACwSYMBOL:Yi YjG:TRIGRAM FOR HEAVr<LAKE<FIy<pUNDe<W",
    "iD<WATe<MOUNTAi<Ehp:WHEEL OF DHhMA:WHITwFROWNiG FACE;SMILiG.:BLACK.:WHITwSUNcRAYS:FIRST QUh",
    "Te MOk:LAST.:MeCURY:FEMAf tGN:Ehp:MAf tGN:JUPITe:SATURN:URjUS:NEPTUNE:PLUTO:hIES:TAURUS:GEM",
    "iI:CjCe:fO:VIRGO:LIBRA:SCORPIUS:SAGITThIUS:CAPRICORN:AQUhIUS:PISCES:WHITwCHESS KiG<QUEr<ROO",
    "K<BISHOP<KNg<PAWN:BLACK CHESS KiG<QUEr<ROOK<BISHOP<KNg<PAWN;SPADwSUIT:WHITwHEhT.;DIAMkD.:BL",
    "ACK CLUB.:WHITwSPADE.:BLACK HEhT.;DIAMkD.:WHITwCLUB.:HOT SPRiGS:QUhTe NOTE:EgH.:BEAMoEgH NO",
    "TES;tXTErp.:MUtC FLAT tGN;NATURl.;SHhP.:WEST SYRIAC CROSS:EAST.:UNIVeSl yCYCLiG SYMBOL:yCYC",
    "LiG SYMBOL FOR TYPE-1 PLASuCS=TYPE-2.=TYPE-3.=TYPE-4.=TYPE-5.=TYPE-6.=TYPE-7.=GreIC MATeIlS",
    ":BLACK UNIVeSl yCYCLiG SYMBOL:yCYCfD PAPe SYMBOL:PhulLY-yCYCfD.:PeMjrT PAPe tGN:WHEELCvIR S",
    "YMBOL:DIwFACE-1;FACE-2;FACE-3;FACE-4;FACE-5;FACE-6:WHITwCIRCfcxT Rg=TWO xTS:BLACK CIRCfcWHI",
    "TwxT Rg=TWO WHITwxTS:MkOGRAM FOR YjG<Yi:DIGRAM FOR GyATe YjG<fSSe Yi=YjG<GyATe Yi:WHITwFLAG",
    ":BLACK.:vMMe jD PICK:jCHOR:CROSSoSWORDS:STAFF OF AESCULAPIUS:SCAfS:AfMBIC:FLOWe:GEh:STAFF O",
    "F HeMES:ATOM SYMBOL:FfUR-DE-LIS:OUTLioWHITwSTh:pywLiES CkVeGiG Rg=fFT:WhNiG tGN:HIGH VOLTAG",
    "wtGN:xUBfD FEMAf.;MAf.:iTeLOCKoFEMAf jD MAf tGN:MAf jD FEMAf tGN;WIp STROKE.=jD MAf jD FEMA",
    "f tGN:VeuCl MAfcSTROKwtGN:HORIZkTl.:MEDIUM WHITwCIRCf;BLACK.;d WHITwCIRCf:MhRIAGwSYMBOL:DIV",
    "ORCE.:UNMhRIoPhTNeSHIP SYMBOL:COFFi:FUNel URN:NEUTe:CeES:PlLAS:JUNO:VESTA:CHIRk:BLACK MOk L",
    "ILIp:SEXuf:SEMISEXuf:QUiCUNX:SESQUIQUADRATE:SOCCe BlL:BASEBlL:SQUhoKEY:WHITwDRAUGHTS Mj<KiG",
    ":BLACK DRAUGHTS Mj<KiG:SNOWMj WIpOUT SNOW:SUN BEHiD CLOUD:RAi:BLACK SNOWMj:pUNDe CLOUD jD R",
    "Ai:TURNoWHITwSHOGI PIECE;BLACK.:WHITwDIAMkD i SQUhE:CROSSiG LjES:DISABfD Ch:OPHIUCHUS:PICK:",
    "Ch SLIDiG:HELMETcWHITwCROSS:CIRCfD CROSSiG LjES:CviS:NO rTRY:lTeNATwkE-WAY fFT WAY TRAFFIC:",
    "BLACK TWO-WAY.:WHITE.:BLACK fFT LjwMeGE:WHITE.:DRIVwSLOW tGN:HEAVY WHITwxWN-POiTiG TRIjGf:f",
    "FT CLOSorTRY:SQUhoSluy:FlLiG DIAGkl i WHITwCIRCf i BLACK SQUhE:BLACK TRUCK:ySTRICTofFT rTRY",
    "-1<rTRY-2:ASTRkOMICl SYMBOL FOR URjUS:HEAVY CIRCfcSTROKwjD TWO xTSq:PrTAGRAM:Rg-HjDoiTeLACo",
    "PrTAGRAM:fFT-HjDED.:iVeToPrTAGRAM:BLACK CROSS k SHIELD:SHiTO SHRiE:CHURCH:CASTf:HISTORIC tT",
    "E:GEh WIpOUT HUB;WIp HjDfS:MAP SYMBOL FOR LgHOUSE:MOUNTAi:UMByLLA k GROUND:FOUNTAi:FLAG i H",
    "Of:FeRY:SAILBOAT:SQUhwFOUR CORNeS:SKIe:ICwSKATE:PeSkcBlL:TrT:JAPjESwBjK SYMBOL:HEADSTkwGRAV",
    "EYhD.:FUEL PUMP:CUP k BLACK SQUhE:WHITwFLAGcHORIZkTl MIDDf BLACK STRIPE:BLACK SAFETY SCISSO",
    "RS:UPPe BLADE.:BLACK SCISSORS:LOWe BLADwSCISSORS:WHITwSCISSORS;HEAVY CHECK MhK:TEfPHkwLOCAu",
    "k tGN:TAPwDRIVE:AIRPLjE:rVELOPE:RAISoFIST;HjD:VICTORY.:WRITiG.:LOWe Rg PrCIL:PrCIL:UPPe Rg ",
    "PrCIL:WHITwNIB:BLACK.:CHECK MhK:HEAVY CHECK MhK:MULuPLICAuk X:HEAVY MULuPLICAuk X:BlLOT X:H",
    "EAVY BlLOT X:OUTLioGyEK CROSS:HEAVY.:OPr CrTy.:HEAVY OPr CrTRwCROSS:LATi CROSS:SvxWoWHITwLA",
    "Ti CROSS:OUTLioLATi CROSS:MlTESwCROSS:STh OF DAVID:FOUR TEhDROP-SPOKoASTeISK;BlLOk-SPOKED.:",
    "HEAVY FOUR BlLOk-SPOKoASTeISK:FOUR CLUB-SPOKoASTeISK:BLACK FOUR POiToSTh:WHITE.:SPhKfS:STyS",
    "S OUTLioWHITwSTh:CIRCfD WHITwSTh:OPr CrTRwBLACK STh:BLACK CrTRwWHITE.:OUTLioBLACK STh:HEAV",
    "Y OUTLioBLACK STh:PiWHEEL STh:SvxWoWHITwSTh:HEAVY ASTeISK:OPr CrTRwASTeISK:Eg SPOKED.;POiTo",
    "BLACK STh<PiWHEEL.:tX POiToBLACK.:Eg POiToyCuLiEh BLACK STh:HEAVY Eg POiToyCuLiEh BLACK STh",
    ":TWELVwPOiToBLACK STh:tXTEr POiToASTeISK:TEhDROP-SPOKoASTeISK:OPr CrTRwTEhDROP-SPOKoASTeISK",
    ":HEAVY TEhDROP-SPOKoASTeISK:tX PETlfD BLACK jD WHITwFLOyTTE:BLACK FLOyTTE:WHITE.:Eg PETlfD ",
    "OUTLioBLACK FLOyTTE:CIRCfD OPr CrTRwEg POiToSTh:HEAVY TEhDROP-SPOKoPiWHEEL ASTeISK:SNOWFLAK",
    "E:Tg TRIFOLIATwSNOWFLAKE:HEAVY CHEVRk.:SPhKf:HEAVY SPhKf:BlLOk-SPOKoASTeISK:Eg TEhDROP-SPOK",
    "oPROPELLe ASTeISK:HEAVY Eg TEhDROP-SPOKoPROPELLe ASTeISK:CROSS MhK:SvxWoWHITwCIRCf:NEGAuVwS",
    "QUhoCROSS MhK:LOWe Rg DROP-SvxWoWHITwSQUhE:UPPe.:LOWe Rg SvxWED.:UPPe.:BLACK QUESuk MhK ORN",
    "AMrT:WHITE.;EXCLAMAuk.:BLACK DIAMkD MiUS WHITwX:HEAVY EXCLAMAuk MhK SYMBOL:Lg VeuCl Bh:MEDI",
    "UM.:HEAVY.;SiGf TURNoCOMMA QUOTAuk MhK ORNAMrT<COMMA QUOTAuk MhK ORNAMrT;xUBf TURNoCOMMA QU",
    "OTAuk MhK ORNAMrT<COMMA QUOTAuk MhK ORNAMrT;LOW SiGf COMMA QUOTAuk MhK ORNAMrT<xUBf.:CURVoS",
    "TEM PhAGRAPH tGN ORNAMrT:HEAVY EXCLAMAuk MhK ORNAMrT;HEhT EXCLAMAuk MhK ORNAMrT;BLACK HEhT:",
    "ROTAToHEAVY BLACK HEhT BULfT:FLORl HEhT:ROTAToFLORl HEhT BULfT:MEDIUM fFT PhrpEtS ORNAMrT;R",
    "g.;FLATTrofFT PhrpEtS ORNAMrT<Rg.;fFT-POiTiG jGf BRACKET.;Rg-POiTiG.:HEAVY fFT-POiTiG jGf Q",
    "UOTAuk MhK ORNAMrT;Rg-POiTiG.;fFT-POiTiG jGf BRACKET ORNAMrT;Rg-POiTiG.:Lg fFT TORTOISwSHEL",
    "L BRACKET ORNAMrT;Rg.:MEDIUM fFT CURLY BRACKET ORNAMrT;Rg.:DiGBAT NEGAuVwCIRCfD DIGIT kE>TW",
    "O>pyE>FOUR>FIVE>tX>SEVr>Eg>NiE=NUMBe Tr;CIRCfD SjS-SeIF DIGIT kE>TWO>pyE>FOUR>FIVE>tX>SEVr>",
    "Eg>NiE=NUMBe Tr;NEGAuVwCIRCfD SjS-SeIF DIGIT kE?TWO?pyE?FOUR?FIVE?tX?SEVr?Eg?NiE>NUMBe Tr:H",
    "EAVY WIDE-HEADoRgs hROW;PLUS tGN;MiUS.;DIVItk.;SOUp EAST hROW;Rgs hROW;NORp EAST hROW:DRAFT",
    "iG POiT Rgs.:HEAVY ROUND-uPPED.:TRIjGf-HEADoRgs hROW:HEAVY TRIjGf-HEADoRgs hROW:DASHED.:HEA",
    "VY DASHoTRIjGf-HEADoRgs hROW:BLACK Rgs hROW:pyE-D TOP-LgoRgs hROWHEAD;BOTTOM-LgED.:BLACK Rg",
    "s hROWHEAD:HEAVY BLACK CURVoxWNs jD Rgs hROW=UPs.:SQUAT BLACK Rgs hROW:HEAVY CkCAVE-POiToBL",
    "ACK Rgs hROW:Rg-SvDoWHITwRgs hROW:fFT-SvDED.:BACK-uLToSvxWoWHITwRgs hROW:FRkT-uLTED.:HEAVY ",
    "LOWe Rg-SvxWoWHITwRgs hROW;UPPe.:NOTCHoLOWe.:CURLY LOOP:NOTCHoUPPe Rg-SvxWoWHITwRgs hROW:CI",
    "RCfD HEAVY WHITwRgs hROW:WHITE-FEApeoRgs hROW:BLACK-FEApeoSOUp EAST hROW;Rgs hROW;NORp EAS",
    "T hROW:HEAVY BLACK-FEApeoSOUp EAST hROW<Rgs hROW<NORp EAST hROW:TEhDROP-BhBoRgs hROW:HEAVY ",
    "TEhDROP-SHjKoRgs hROW:WEDGE-TAIfD Rgs hROW:HEAVY WEDGE-TAIfD Rgs hROW:OPr-OUTLioRgs hROW:xU",
    "Bf CURLY LOOP:pywDIMrtkl jGf:WHITwTRIjGf CkTAiiG d WHITwTRIjGf:PePrDICULh:OPr SUBSET;SUPeSE",
    "T:fFT S-SvPoBAG DELIMITe:Rg.:ORcxT itDE:yVeSwSOLIDUS PyCEDiG SUBSET:SUPeSET PyCEDiG SOLIDUS",
    ":VeuCl BhcHORIZkTl STROKE:MApEMAuCl RISiG DIAGkl:LkG DIVItk:MApEMAuCl FlLiG DIAGkl:SQUhoLOG",
    "ICl jD<OR:WHITwDIAMkDcCrTRoxT:jDcxT:EfMrT OF OPriG UPs:LOWe Rg CORNecxT:UPPe fFT.:fFT OUTe ",
    "JOi:Rg.:FULL.:LhGwUP TACK;xWN.:fFT jD Rg xUBf TURNSuf=TACK;MULuMAP:LkG Rg TACK;fFT.:UP TACK",
    "cCIRCfq:LOZrGwDIVIDoBY HORIZkTl RUf:WHITwCkCAVE-tDoDIAMkD=WIp fFTs uCK>Rgs.;SQUhEcfFTs uCK=",
    "Rgs.:MApEMAuCl fFT WHITwSQUhwBRACKET;Rg.;fFT jGf BRACKET;Rg.;fFT xUBf jGf BRACKET;Rg.;fFT W",
    "HITwTORTOISwSHELL BRACKET;Rg.;fFT FLATTroPhrpEtS;Rg.:UPs QUADRUPf hROW:xWNs.:juCLOCKWISwGAP",
    "PoCIRCf hROW:CLOCKWISE.:Rg hROWcCIRCfD PLUS:LkG fFTs hROW;Rgs.;fFT Rg hROW;fFTs xUBf.;Rgs.;",
    "fFT Rg xUBf hROW;fFTs hROW FROM Bh;Rgs.;fFTs xUBf hROW FROM Bh;Rgs.<SQUIGGf hROW:BRAILf PAT",
    "TeN BLjK<xTS-1<xTS-2<xTS-12<xTS-3<xTS-13<xTS-23<xTS-123<xTS-4<xTS-14<xTS-24<xTS-124<xTS-34<",
    "xTS-134<xTS-234<xTS-1234<xTS-5<xTS-15<xTS-25<xTS-125<xTS-35<xTS-135<xTS-235<xTS-1235<xTS-45",
    "<xTS-145<xTS-245<xTS-1245<xTS-345<xTS-1345<xTS-2345<xTS-12345<xTS-6<xTS-16<xTS-26<xTS-126<x",
    "TS-36<xTS-136<xTS-236<xTS-1236<xTS-46<xTS-146<xTS-246<xTS-1246<xTS-346<xTS-1346<xTS-2346<xT",
    "S-12346<xTS-56<xTS-156<xTS-256<xTS-1256<xTS-356<xTS-1356<xTS-2356<xTS-12356<xTS-456<xTS-145",
    "6<xTS-2456<xTS-12456<xTS-3456<xTS-13456<xTS-23456<xTS-123456<xTS-7<xTS-17<xTS-27<xTS-127<xT",
    "S-37<xTS-137<xTS-237<xTS-1237<xTS-47<xTS-147<xTS-247<xTS-1247<xTS-347<xTS-1347<xTS-2347<xTS",
    "-12347<xTS-57<xTS-157<xTS-257<xTS-1257<xTS-357<xTS-1357<xTS-2357<xTS-12357<xTS-457<xTS-1457",
    "<xTS-2457<xTS-12457<xTS-3457<xTS-13457<xTS-23457<xTS-123457<xTS-67<xTS-167<xTS-267<xTS-1267",
    "<xTS-367<xTS-1367<xTS-2367<xTS-12367<xTS-467<xTS-1467<xTS-2467<xTS-12467<xTS-3467<xTS-13467",
    "<xTS-23467<xTS-123467<xTS-567<xTS-1567<xTS-2567<xTS-12567<xTS-3567<xTS-13567<xTS-23567<xTS-",
    "123567<xTS-4567<xTS-14567<xTS-24567<xTS-124567<xTS-34567<xTS-134567<xTS-234567<xTS-1234567<",
    "xTS-8<xTS-18<xTS-28<xTS-128<xTS-38<xTS-138<xTS-238<xTS-1238<xTS-48<xTS-148<xTS-248<xTS-1248",
    "<xTS-348<xTS-1348<xTS-2348<xTS-12348<xTS-58<xTS-158<xTS-258<xTS-1258<xTS-358<xTS-1358<xTS-2",
    "358<xTS-12358<xTS-458<xTS-1458<xTS-2458<xTS-12458<xTS-3458<xTS-13458<xTS-23458<xTS-123458<x",
    "TS-68<xTS-168<xTS-268<xTS-1268<xTS-368<xTS-1368<xTS-2368<xTS-12368<xTS-468<xTS-1468<xTS-246",
    "8<xTS-12468<xTS-3468<xTS-13468<xTS-23468<xTS-123468<xTS-568<xTS-1568<xTS-2568<xTS-12568<xTS",
    "-3568<xTS-13568<xTS-23568<xTS-123568<xTS-4568<xTS-14568<xTS-24568<xTS-124568<xTS-34568<xTS-",
    "134568<xTS-234568<xTS-1234568<xTS-78<xTS-178<xTS-278<xTS-1278<xTS-378<xTS-1378<xTS-2378<xTS",
    "-12378<xTS-478<xTS-1478<xTS-2478<xTS-12478<xTS-3478<xTS-13478<xTS-23478<xTS-123478<xTS-578<",
    "xTS-1578<xTS-2578<xTS-12578<xTS-3578<xTS-13578<xTS-23578<xTS-123578<xTS-4578<xTS-14578<xTS-",
    "24578<xTS-124578<xTS-34578<xTS-134578<xTS-234578<xTS-1234578<xTS-678<xTS-1678<xTS-2678<xTS-",
    "12678<xTS-3678<xTS-13678<xTS-23678<xTS-123678<xTS-4678<xTS-14678<xTS-24678<xTS-124678<xTS-3",
    "4678<xTS-134678<xTS-234678<xTS-1234678<xTS-5678<xTS-15678<xTS-25678<xTS-125678<xTS-35678<xT",
    "S-135678<xTS-235678<xTS-1235678<xTS-45678<xTS-145678<xTS-245678<xTS-1245678<xTS-345678<xTS-",
    "1345678<xTS-2345678<xTS-12345678:Rgs TWO-HEADohROWcVeuCl STROKE>xUBf VeuCl STROKE:fFTs xUB",
    "f hROWcVeuCl STROKE:Rgs.:fFT Rg xUBf hROWcVeuCl STROKE:Rgs TWO-HEADohROW FROM Bh:fFTs xUBf.",
    ":Rgs.:xWNs hROWcHORIZkTl STROKE:UPs.;TRIPf hROW:xWNs.:fFTs xUBf DASH hROW:Rgs.:fFTs TRIPf.:",
    "Rgs.;TWO-HEADoTRIPf DASH hROW;hROWcxTToSTEM:UPs hROW TO Bh:xWNs.:Rgs hROWcTAILcVeuCl STROKE",
    "?xUBf VeuCl STROKE;TWO-HEADohROWcTAIL?WIp VeuCl STROKE@xUBf VeuCl STROKE:fFTs hROW-TAIL:Rgs",
    ".:fFTs xUBf hROW-TAIL:Rgs.:fFTs hROW TO BLACK DIAMkD:Rgs.:fFTs hROW FROM Bh TO BLACK DIAMkD",
    ":Rgs.:NORp WEST jD SOUp EAST hROW;EAST jD SOUp WEST.;WEST hROWcHOOK;EAST.:SOUp.;WEST.:NORp ",
    "WEST hROW jD NORp EAST hROW;EAST hROW jD SOUp.:SOUp EAST hROW jD SOUp WEST.;WEST hROW jD NO",
    "Rp.:RISiG DIAGkl CROSSiG FlLiG DIAGkl:FlLiG DIAGkl CROSSiG RISiG.:SOUp EAST hROW CROSSiG NO",
    "Rp EAST hROW:NORp EAST hROW CROSSiG SOUp.:FlLiG DIAGkl CROSSiG NORp EAST hROW:RISiG DIAGkl ",
    "CROSSiG SOUp.:NORp EAST hROW CROSSiG NORp WEST hROW;WEST hROW CROSSiG NORp EAST.:WAVwhROW P",
    "OiTiG DIyCTLY Rg:hROW POiTiG Rgs pr CURViG UPs?xWNs<xWNs pr CURViG fFTs?Rgs:Rg-tDwhC CLOCKW",
    "ISwhROW:fFT-tDwhC juCLOCKWISE.:TOP.:BOTTOM.:TOP hC CLOCKWISwhROWcMiUS<juCLOCKWISwhROWcPLUS:",
    "LOWe Rg SEMICIRCULh CLOCKWISwhROW;fFT SEMICIRCULh juCLOCKWISE.:juCLOCKWISwCLOSoCIRCf hROW:C",
    "LOCKWISE.:Rgs hROWq SHORT fFTs hROW:fFTs hROWq SHORT Rgs.:SHORT Rgs hROWq fFTs.:Rgs hROWcPL",
    "US BELOW:fFTs.:Rgs hROW pROUGH X:fFT Rg hROW pROUGH d CIRCf:UPs TWO-HEADohROW FROM.:fFT Bh",
    "B UP Rg BhB xWN HhPOk<xWN Rg BhB UP.:UP BhB Rg xWN BhB fFT.<fFT xWN BhB Rg.:fFT BhB UP Rg B",
    "hB UP.:UP BhB Rg xWN BhB Rg.:fFT BhB xWN Rg BhB xWN.:UP BhB fFT xWN BhB fFT.:fFTs HhPOkcBh",
    "B UP TO Bh:Rgs.:UPs HhPOkcBhB Rg.:xWNs.:fFTs HhPOkcBhB xWN.:Rgs.:UPs HhPOkcBhB fFT.:xWNs.:f",
    "FTs HhPOkcBhB UP FROM.:Rgs.:UPs HhPOkcBhB Rg.:xWNs.:fFTs HhPOkcBhB xWN.:Rgs.:UPs HhPOkcBhB ",
    "fFT.:xWNs.:fFTs HhPOkcBhB UPq fFTs HhPOkcBhB xWN:UPs HhPOkcBhB fFT BEtDwUPs HhPOkcBhB Rg:Rg",
    "s HhPOkcBhB UPq Rgs HhPOkcBhB xWN:xWNs HhPOkcBhB fFT BEtDwxWNs HhPOkcBhB Rg:fFTs HhPOkcBhB ",
    "UPq Rgs HhPOkcBhB UP>xWNq Rgs HhPOkcBhB xWN:Rgs HhPOkcBhB UPq fFTs HhPOkcBhB UP>xWNq fFTs H",
    "hPOkcBhB xWN:fFTs HhPOkcBhB UPq LkG DASH>xWN BELOW.:Rgs HhPOkcBhB UPq.>xWN BELOW.:UPs HhPOk",
    "cBhB fFT BEtDwxWNs HhPOkcBhB Rg:xWNs HhPOkcBhB fFT BEtDwUPs.:Rg xUBf hROWcROUNDoHEAD:EQUlS ",
    "tGNq Rgs hROW:uLDwOPeATOR.:fFTs hROWq uLDwOPeATOR:Rgs.=lMOST EQUl TO:fSS-pjq fFTs hROW:fFT",
    "s hROW pROUGH fSS-pj:GyATe-pjq Rgs hROW:SUBSET.:fFTs hROW pROUGH SUBSET:SUPeSETq fFTs hROW:",
    "fFT FISH TAIL:Rg.:UP.:xWN.:TRIPf VeuCl Bh DELIMITe:Z NOTAuk SPOT<TYPwCOLk:fFT WHITwCURLY BR",
    "ACKET:Rg.:fFT WHITwPhrpEtS:Rg.:Z NOTAuk fFT IMAGwBRACKET<Rg.<fFT BiDiG.<Rg.:fFT SQUhwBRACKE",
    "TcUNDeBh:Rg.:fFT SQUhwBRACKETcuCK i TOP CORNe:Rg SQUhwBRACKETcuCK i BOTTOM.:fFT.:Rg SQUhwBR",
    "ACKETcuCK i TOP.:fFT jGf BRACKETcxT:Rg.:fFT hC fSS-pj BRACKET:Rg hC GyATe-pj.:xUBf fFT hC G",
    "yATe-pj BRACKET;Rg hC fSS-pj.:fFT BLACK TORTOISwSHELL.:Rg.:xTToFrCE:VeuCl ZIGZAG LiE:MEASUR",
    "ojGf OPriG fFT:Rg jGf VhIjTcSQUhE:MEASURoRg jGfcxT:jGfcS itDE:ACUTwjGf:SPHeICl jGf OPriG fF",
    "T=UP:TURNojGf:yVeSED.:jGfcUNDeBh:yVeSojGfcUNDeBh:OBLIQUwjGf OPriG UP=xWN:MEASURojGfcOPr hM ",
    "rDiG i hROW POiTiG UP jD Rg@i hROW POiTiG UP jD fFT@i hROW POiTiG xWN jD Rg@i hROW POiTiG x",
    "WN jD fFT@i hROW POiTiG Rg jD UP@i hROW POiTiG fFT.@i hROW POiTiG Rg jD xWN@i hROW POiTiG f",
    "FT.:yVeSoEMPTY SET:EMPTY SETcOVeBh=d CIRCfq=Rg hROW.=fFT.:CIRCfcHORIZkTl Bh:CIRCfD VeuCl Bh",
    ";PhlfL;yVeSwSOLIDUS;PePrDICULh:CIRCf DIVIDoBY HORIZkTl Bh jD TOP HlF DIVIDoBY VeuCl Bh;WIp ",
    "SUPeIMPOSoX:CIRCfD juCLOCKWISE-ROTAToDIVItk tGN:UP hROW pROUGH CIRCf:CIRCfD WHITwBULfT;BULf",
    "T;fSS-pj;GyATe-pj:CIRCfcd CIRCf TO pwRg<TWO HORIZkTl STROKES TO pwRg:SQUhoRISiG DIAGkl SLAS",
    "H;FlLiG.;ASTeISK;d CIRCf;SQUhE:TWO JOioSQUhES:TRIjGfcxTq<UNDeBh:S i TRIjGf:TRIjGfcSeIFS AT ",
    "BOTTOM:Rg TRIjGfq fFT TRIjGf:fFT TRIjGf BEtDwVeuCl Bh:VeuCl Bh BEtDwRg TRIjGf:BOWuEcfFT Hl",
    "F BLACK<Rg.:BLACK BOWuE:uMEScfFT HlF BLACK<Rg.:WHITwHOURGLASS:BLACK.:fFT WIGGLY FrCE:Rg.:fF",
    "T xUBf WIGGLY FrCE:Rg.:iCOMPfTwiFiITY:uwOVe iFiITY:iFiITY NEGATEDcVeuCl Bh:xUBf-rDoMULuMAP:",
    "SQUhEcCkTOURoOUTLiE:iCyASES AS:SHUFFf PRODUCT:EQUlS tGN jD SLjToPhlfL?WIp uLDEq:IDruCl TO j",
    "D SLjToPhlfL:GfICH SThK:peMODYNAMIC:xWN-POiTiG TRIjGfcfFT HlF BLACK=Rg.:BLACK DIAMkDcxWN hR",
    "OW;LOZrGE:WHITwCIRCfcxWN hROW:BLACK.:eROR-BhRoWHITwSQUhE;BLACK.;WHITwDIAMkD;BLACK.;WHITwCIR",
    "Cf;BLACK.:RUf-DELAYED:yVeSwSOLIDUS OPeATOR:SOLIDUScOVeBh:yVeSwSOLIDUScHORIZkTl STROKE:BIG S",
    "OLIDUS;yVeSwSOLIDUS:xUBf PLUS:TRIPf.:fFT-POiTiG CURVojGf BRACKET:Rg-POiTiG.:TiY:MiY:N-hY CI",
    "RCfD xT OPeATOR<PLUS.<uMES.;UNIk OPeATORcxT>PLUS;SQUhwiTeSECuk OPeATOR<UNIk.:TWO LOGICl jD.",
    "<OR.:N-hY uMES OPeATOR:MODULO TWO SUM:SUMMAukciTEGRl:QUADRUPf iTEGRl OPeATOR:FiITwPhT iTEGR",
    "l:iTEGRlcxUBf STROKE;AVeAGEcSLASH:CIRCULAuk FUNCuk:juCLOCKWISwiTEGRAuk:LiwiTEGRAukcyCTjGUL",
    "h PAp hOUND POf=SEMICIRCULh.<NOT iCLUDiG pwPOf:iTEGRl hOUND A POiT OPeATOR:QUATeNIk iTEGRl ",
    "OPeATOR:iTEGRlcfFTs hROWcHOOK<uMES tGN<iTeSECuk<UNIk<OVeBh<UNDeBh:JOi:LhGwfFT TRIjGf OPeATO",
    "R:Z NOTAuk SCHEMA COMPOtuk=PIPiG=PROJECuk:PLUS tGNcd CIRCfq=CIRCUMFfX ACCrT.=uLDEq=xT BELOW",
    "=uLDE.=SUBSCRIPT TWO=BLACK TRIjGf:MiUS tGNcCOMMAq=xT BELOW=FlLiG xTS=RISiG.:PLUS tGN i fFT ",
    "HlF CIRCf=Rg.:VECTOR OR CROSS PRODUCT:MULuPLICAuk tGNcxTq=UNDeBh:SEMIDIyCT PRODUCTcBOTTOM C",
    "LOSED:SMASH PRODUCT:MULuPLICAuk tGN i fFT HlF CIRCf=Rg.:CIRCfD MULuPLICAuk tGNcCIRCUMFfX AC",
    "CrT:MULuPLICAuk tGN i xUBf CIRCf:CIRCfD DIVItk tGN:PLUS tGN i TRIjGf:MiUS.:MULuPLICAuk.:iTe",
    "IOR PRODUCT:RgHjD iTeIOR PRODUCT:Z NOTAuk yLAukl COMPOtuk:AMlGAMAuk OR COPRODUCT:iTeSECukcx",
    "T:UNIkcMiUS tGN<OVeBh:iTeSECuk.<LOGICl jD:UNIkcLOGICl OR;ABOVwiTeSECuk:iTeSECukq UNIk:UNIk",
    "q Bhq iTeSECuk:iTeSECukq Bhq UNIk:UNIk BEtDwjD JOiEDcUNIk:iTeSECuk BEtDwjD JOiEDciTeSECuk:C",
    "LOSoUNIkcSeIFS;iTeSECuk.:xUBf SQUhwiTeSECuk<UNIk:CLOSoUNIkcSeIFS jD SMASH PRODUCT:LOGICl jD",
    "cxTq;OR.:xUBf LOGICl jD<OR:TWO iTeSECTiG LOGICl jD=OR:SLOPiG LhGwOR<jD:LOGICl OR OVeLAPPiG ",
    "LOGICl jD;jDcMIDDf STEM;OR.;jDcHORIZkTl DASH;OR.;jDcxUBf OVeBh=UNDeBh=xUBf UNDeBh:d VEEcUND",
    "eBh:LOGICl ORcxUBf OVeBh>UNDeBh:Z NOTAuk xMAi juySTRICuk<RjGE.:EQUlS tGNcxT BELOW:IDruClcxT",
    "q:TRIPf HORIZkTl BhcxUBf VeuCl STROKE>TRIPf.:uLDwOPeATORcxTq=RISiG xTS:tMILh MiUS tMILh:CkG",
    "RUrTcxTq:EQUlScASTeISK:lMOST EQUl TOcCIRCUMFfX ACCrT:APPROXIMATELY EQUl OR EQUl TO:EQUlS tG",
    "Nq PLUS tGN:PLUS tGNq EQUlS.:EQUlS tGNq uLDwOPeATOR:xUBf COLk EQUl:TWO CkSECUuVwEQUlS tGNS:",
    "pyE.:EQUlS tGNcTWO xTSq jD TWO xTS BELOW:EQUIVAfNTcFOUR xTSq:fSS-pjcCIRCf itDE:GyATe-pj.:fS",
    "S-pjcQUESuk MhKq:GyATe-pj.:fSS-pj OR SLjToEQUl TO:GyATe-pj.:fSS-pj OR SLjToEQUl TOcxT itDE:",
    "GyATe-pj.:fSS-pj OR SLjToEQUl TOcxTq:GyATe-pj.:fSS-pj OR SLjToEQUl TOcxTq Rg:GyATe-pj OR SL",
    "jToEQUl TOcxTq fFT:fSS-pj OR APPROXIMATE:GyATe-pj.:fSS-pj jD SiGf-LiwNOT EQUl TO:GyATe-pj.:",
    "fSS-pj jD NOT APPROXIMATE:GyATe-pj.:fSS-pjq xUBf-LiwEQUlq GyATe-pj:GyATe-pjq xUBf-LiwEQUlq ",
    "fSS-pj:fSS-pjq tMILh OR EQUl:GyATe-pj.:fSS-pjq tMILhq GyATe-pj:GyATe-pjq tMILhq fSS-pj:fSS-",
    "pjq GyATe-pjq xUBf-LiwEQUl:GyATe-pjq fSS-pj.:fSS-pjq SLjToEQUlq GyATe-pjq SLjToEQUl:GyATe-p",
    "jq SLjToEQUlq fSS-pj.:SLjToEQUl TO OR fSS-pj>GyATe-pj>fSS-pjcxT itDE>GyATe-pj.:xUBf-LiwEQU",
    "l TO OR fSS-pj>GyATe-pj;SLjToEQUl TO OR fSS-pj?GyATe-pj:tMILh OR fSS-pj<GyATe-pj;ABOVwfSS-p",
    "jq EQUlS tGN<GyATe-pj.:xUBf NESTofSS-pj<GyATe-pj<fSS-pjcUNDeBh:GyATe-pj OVeLAPPiG fSS-pj;BE",
    "tDE.:fSS-pj CLOSoBY CURVE:GyATe-pj.:fSS-pj CLOSoBY CURVEq SLjToEQUl:GyATe-pj.:de pj:LhGe.:d",
    "e pj OR EQUl TO:LhGe.:EQUlS tGNcBUMPYq:PyCEDESq SiGf-LiwEQUlS tGN:SUCCEEDS.:PyCEDESq SiGf-L",
    "iwNOT EQUl TO:SUCCEEDS.:PyCEDESq EQUlS tGN:SUCCEEDS.:PyCEDESq NOT EQUl TO:SUCCEEDS.:PyCEDES",
    "q lMOST.:SUCCEEDS.:PyCEDESq NOT lMOST EQUl TO:SUCCEEDS.:xUBf PyCEDES;SUCCEEDS:SUBSETcxT:SUP",
    "eSET.:SUBSETcPLUS tGN BELOW:SUPeSET.:SUBSETcMULuPLICAuk.:SUPeSET.:SUBSET OF OR EQUl TOcxTq:",
    "SUPeSET.:SUBSET OFq EQUlS tGN:SUPeSET.:SUBSET OFq uLDwOPeATOR:SUPeSET.:SUBSET OFq lMOST EQU",
    "l TO:SUPeSET.:SUBSET OFq NOT.:SUPeSET.:SQUhwfFT OPr BOX OPeATOR;Rg.:CLOSoSUBSET;SUPeSET;SUB",
    "SET OR EQUl TO;SUPeSET.:SUBSETq SUPeSET:SUPeSETq SUBSET:SUBSET.:SUPeSETq SUPeSET;BEtDwSUBSE",
    "T<jD JOioBY DASHcSUBSET:EfMrT OF OPriG xWNs:PITCHFORKcTEwTOP:TRjSVeSl iTeSECuk:FORKiG:NkFOR",
    "KiG:SHORT fFT TACK;xWN.;UP.:PePrDICULhcS:VeuCl Bh TRIPf Rg TURNSuf:xUBf VeuCl Bh fFT.:VeuC",
    "l Bh xUBf.:xUBf VeuCl Bh xUBf fFT TURNSuf:LkG DASH FROM fFT MEMBe OF xUBf VeuCl:SHORT xWN T",
    "ACKcOVeBh;UP TACKcUNDeBh=ABOVwSHORT xWN TACK:xUBf xWN TACK;UP.;STROKwNOT tGN:yVeSoxUBf STRO",
    "KwNOT tGN:xES NOT DIVIDEcyVeSoNEGAuk SLASH:VeuCl LiEcCIRCfq>BELOW:xWN TACK.:PhlfLcHORIZkTl ",
    "STROKE<uLDwOPeATOR:TRIPf VeuCl Bh BihY yLAuk=WIp HORIZkTl STROKE;COLk OPeATOR;NESTofSS-pj<G",
    "yATe-pj:xUBf-LiwSLjTofSS-pj OR EQUl TO<GyATe-pj.:TRIPf SOLIDUS BihY yLAuk:LhGwTRIPf VeuCl B",
    "h OPeATOR:xUBf SOLIDUS OPeATOR:WHITwVeuCl Bh:N-hY WHITwVeuCl Bh:NORp EAST WHITwhROW;WEST.:S",
    "OUp EAST.;WEST.:fFT Rg.:fFTs BLACK hROW:UPs.:xWNs.:NORp EAST BLACK hROW;WEST.:SOUp EAST.;WE",
    "ST.:fFT Rg.:UP xWN.:Rgs hROWcuP xWNs>UPs:fFTs hROWcuP xWNs>UPs:SQUhEcTOP HlF BLACK<BOTTOM.<",
    "UPPe Rg DIAGkl HlF BLACK<LOWe fFT.:DIAMkDcfFT HlF BLACK<Rg.<TOP.<BOTTOM.:xTToSQUhE:BLACK Lh",
    "GwSQUhE:WHITE.:BLACK VeY d SQUhE:WHITE.:BLACK PrTAGk:WHITE.;HEXAGk:BLACK.:HORIZkTl BLACK HE",
    "XAGk:BLACK LhGwCIRCf;MEDIUM DIAMkD:WHITE.:BLACK MEDIUM LOZrGE:WHITE.:BLACK d DIAMkD<LOZrGE:",
    "WHITE.:BLACK HORIZkTl ELLIPSE:WHITE.:BLACK VeuCl.:WHITE.:fFT hROWcd CIRCf:pywfFTs hROWS:fF",
    "T hROWcCIRCfD PLUS:LkG fFTs SQUIGGf hROW:fFTs TWO-HEADohROWcVeuCl STROKE>xUBf VeuCl STROKE=",
    "FROM Bh<TRIPf DASH hROW;hROWcxTToSTEM=TAILcVeuCl STROKE?xUBf VeuCl STROKE;TWO-HEADohROWcTAI",
    "L?WIp VeuCl STROKE@xUBf VeuCl STROKE;hROW pROUGH X:WAVwhROW POiTiG DIyCTLY fFT:EQUlS tGNq f",
    "FTs hROW:yVeSwuLDwOPeATORq fFTs hROW:fFTs hROWq yVeSwlMOST EQUl TO:Rgs hROW pROUGH GyATe-pj",
    "=SUPeSET:fFTs QUADRUPf hROW:Rgs.:yVeSwuLDwOPeATORq Rgs hROW:Rgs hROWq yVeSwlMOST EQUl TO:uL",
    "DwOPeATORq fFTs hROW:fFTs hROWq lMOST EQUl TO=yVeSwuLDwOPeATOR:Rgs.:xWNs TRIjGf-HEADoZIGZA",
    "G hROW:SHORT SLjToNORp.;BACKSLjToSOUp.:WHITwMEDIUM STh:BLACK d.:WHITE.:BLACK Rg-POiTiG PrTA",
    "Gk:WHITE.:HEAVY LhGwCIRCf;OVlcOVl itDE;CIRCfcCIRCf.;CIRCf;CIRCfD Sluy:SLjToNORp hROWcHOOKoH",
    "EAD:BACKSLjToSOUp hROWcHOOKoTAIL:SLjToNORp hROWcHORIZkTl.:BACKSLjToSOUp.:BrT hROW POiTiG xW",
    "Ns pr NORp EAST:SHORT BrT hROW POiTiG xWNs pr NORp EAST:fFTs TRIjGf-HEADohROW:UPs.:Rgs.:xWN",
    "s.:fFT Rg TRIjGf-HEADohROW:UP xWN.:NORp WEST.;EAST.:SOUp.;WEST.:fFTs TRIjGf-HEADoDASHED.:UP",
    "s.:Rgs.:xWNs.:CLOCKWISwTRIjGf-HEADoOPr CIRCf hROW:juCLOCKWISE.:fFTs TRIjGf-HEADohROW TO Bh:",
    "UPs.:Rgs.:xWNs.~~:NORp WEST TRIjGf-HEADohROW TO Bh;EAST.:SOUp.;WEST.:fFTs TRIjGf-HEADohROWc",
    "xUBf HORIZkTl STROKE:UPs.:Rgs.:xWNs.:HORIZkTl TAB KEY:VeuCl.:fFTs TRIjGf-HEADohROW OVe Rgs ",
    "TRIjGf-HEADohROW:UPs TRIjGf-HEADohROW fFTs OF xWNs TRIjGf-HEADohROW:Rgs TRIjGf-HEADohROW OV",
    "e fFTs TRIjGf-HEADohROW:xWNs TRIjGf-HEADohROW fFTs OF UPs TRIjGf-HEADohROW:fFTs TRIjGf-HEAD",
    "oPAIRohROWS:UPs.:Rgs.:xWNs.:fFTs BLACK CIRCfD WHITwhROW:UPs.:Rgs.:xWNs.:juCLOCKWISwTRIjGf-H",
    "EADoRg U-SvPED.<BOTTOM.<fFT.<TOP.:yTURN fFT;Rg:NEWLiwfFT;Rg:FOUR CORNe hROWS CIRCLiG juCLOC",
    "KWISE:Rgs BLACK hROW~:SYMBOL FOR TYPwA EfCTRkICS:pyE-D TOP-LgofFTs EQUILATel hROWHEAD;Rg-Lg",
    "oUPs.;TOP-LgoRgs.;fFT-LgoxWNs.:BLACK fFTs EQUILATel hROWHEAD;UPs.;Rgs.;xWNs.:xWNs TRIjGf-HE",
    "ADohROWcLkG uP fFTs@Rgs:UPs TRIjGf-HEADohROWcLkG uP fFTs@Rgs:fFTs TRIjGf-HEADohROWcLkG uP U",
    "Ps:Rgs.:fFTs TRIjGf-HEADohROWcLkG uP xWNs:Rgs.:BLACK CURVoxWNs jD fFTs hROW>Rgs.<UPs jD fFT",
    "s.>Rgs.<fFTs jD UPs.<Rgs.<fFTs jD xWNs.<Rgs.:RIBBk hROW xWN fFT=Rg<UP fFT=Rg<fFT UP<Rg.<fF",
    "T xWN<Rg.:UPs WHITwhROW FROM BhcHORIZkTl Bh:UP hROWHEAD i A yCTjGf BOX:OVeLAPPiG WHITwSQUhE",
    "S<jD BLACK SQUhES;BLACK SQUhES:BlLOT BOXcLg X:CIRCfD X;BOLD X:BLACK SQUhwCrTyD;DIAMkD.:TURN",
    "oBLACK PrTAGk:HORIZkTl BLACK OCTAGk:BLACK OCTAGk;MEDIUM UP-POiTiG TRIjGf CrTyD<xWN-POiTiG.<",
    "fFT-POiTiG.<Rg-POiTiG.:NEPTUNwFORM TWO:TOP HlF BLACK CIRCf:BOTTOM.:Lg FOUR POiToBLACK CUSP:",
    "ROTAToLg FOUR POiToBLACK CUSP:WHITwFOUR POiToCUSP:ROTAToWHITwFOUR POiToCUSP:SQUhwPOtuk iDIC",
    "ATOR:UNCeTAiTY tGN:GROUP MhK:PLUTO FORM TWO<pyE<FOUR<FIVE:TRjSPLUTO:PROSePiA:ASTRAEA:HYGIEA",
    ":PHOLUS:NESSUS:WHITwMOk SEfNA:BLACK DIAMkD k CROSS:TRUwLg MOk hTA:CUPIx:vDES:ZEUS:KRkOS:APO",
    "LLk:ADMETOS:VULCjUS:POSEIDk:fFT HlF BLACK STh:Rg.:SThcfFT HlF BLACK<Rg.:fFTs TWO-HEADohROWc",
    "TRIjGf hROWHEADS:UPs.:Rgs.:xWNs.:eIS FORM kE<TWO:SEDNA:RUStj ASTROLOGICl SYMBOL VIGiuf=NOVI",
    "f=QUiuf=BiOVIf=SrTAGk=TyDECIf:EQUlS tGNciFiITY BELOW:UNIToSYMBOL:SEPhATED.:xUBfD.:PASSED.:y",
    "VeSoRg jGf:HELLSCHyIBe PAUSwSYMBOL:GLAGOLIuC zAZU=BUKY=VEDE=GLAGOLI=xBRO=YESTU=ZHIVETE=DZEL",
    "O=ZEMLJA=IZHE=iIul IZHE=I=DJeVI=KAKO=LJUDIJE=MYSLITE=NASHI=kU=POKOJI=RITt=SLOVO=TVRIx=UKU=F",
    "RITU=HeU=OTU=PE=SHTA=Tt=CHRIVI=Sv=YeU=YeI=YAu=SPIDeY v=YU=d YUS?WIp TAIL=YO=IOTATod YUS=BI",
    "G YUS=IOTAToBIG YUS=FITA=IZHITSA=SHTAPIC=TROKUTASu A=LATiATwMYSLITE=CAUDATwCHRIVI;d nAZU=BU",
    "KY=VEDE=GLAGOLI=xBRO=YESTU=ZHIVETE=DZELO=ZEMLJA=IZHE=iIul IZHE=I=DJeVI=KAKO=LJUDIJE=MYSLITE",
    "=NASHI=kU=POKOJI=RITt=SLOVO=TVRIx=UKU=FRITU=HeU=OTU=PE=SHTA=Tt=CHRIVI=Sv=YeU=YeI=YAu=SPIDe",
    "Y v=YU=d YUS?WIp TAIL=YO=IOTATod YUS=BIG YUS=IOTAToBIG YUS=FITA=IZHITSA=SHTAPIC=TROKUTASu A",
    "=LATiATwMYSLITE=CAUDATwCHRIVI:LATi zLcxUBf Bh;d.;zLcMIDDf uLDE=PcSTROKE=RcTAIL;d nAcSTROKE=",
    "TcDIAGkl STROKE;zHcDESCrDe;d.;zK.;d.;zZ.;d.;zlPv=McHOOK=TURNoA>lPv;d nVcRg HOOK;zWcHOOK;d.=",
    "VcCURL;zHlF H;d.=TAILfSS PHI=EcNOTCH=TURNoRcTAIL=OcLOW RiG itDE;nd CAPITl TURNoE;SUBSCRIPT ",
    "d nJ:MODIFIe nCAPITl V:LATi zScSWASH TAIL=Z.:COPuC zlFA;d.;zVIDA;d.;zGAMMA;d.;zDlDA;d.;zEIE",
    ";d.;zSOU;d.;zZATA;d.;zvTE;d.;zpEpE;d.;zIAUDA;d.;zKAPA;d.;zLAULA;d.;zMI;d.;zNI;d.;zKt;d.;zO;",
    "d.;zPI;d.;zRO;d.;ztMA;d.;zTAU;d.;zUA;d.;zFI;d.;zKHI;d.;zPt;d.;zOOU;d.;zDIAfCT-P AfF;d.;zOL",
    "D COPuC Ai;d.;zCRYPTOGRAMMIC EIE;d.;zDIAfCT-P KAPA;d.;zDIAfCT-P NI;d.;zCRYPTOGRAMMIC.;d.;zO",
    "LD COPuC OOU;d.;zSAMPI;d.;zCROSSoSHEI;d.;zOLD COPuC SHEI;d.;zOLD COPuC ESH;d.;zAKHMIMIC KHE",
    "I;d.;zDIAfCT-P HORI;d.;zOLD COPuC HORI;d.;zOLD COPuC v;d.;zL-SvPov;d.;zOLD COPuC HEI;d.;zOL",
    "D COPuC vT;d.;zOLD COPuC GjGIA;d.;zOLD COPuC DJA;d.;zOLD COPuC SHIMA;d.;zOLD NUBIj.;d.;zOL",
    "D NUBIj NGI;d.;zOLD NUBIj NYI;d.;zOLD NUBIj WAU;d.;SYMBOL KAI<MI RO<PI.<STAUROS<TAU RO<KHI.",
    "<SHIMA tMA;zCRYPTOGRAMMIC SHEI;d.;zCRYPTOGRAMMIC GjGIA;d.;COMBiiG NIq<SPIRITUS ASPe=fNIS;zB",
    "OvIRIC KHEI;d.~~~~~;OLD NUBIj FULL STOP=DIyCT QUESuk MhK=iDIyCT.=VeSwDIVIDe;FRACuk kwHlF;FU",
    "LL STOP;MORPHOLOGICl DIVIDe:GEORGIj d nj=Bj=Gj=Dk=r=Vi=Zr=Tj=i=Kj=LAS=Mj=Nh=k=Ph=ZHh=RAE=Sj",
    "=Th=UN=PHh=KHh=GHj=Qh=SHi=CHi=Cj=JIL=CIL=CHh=Xj=JHj=vE=HE=HIE=WE=Hh=HOE~=YN~~~~~=Ar~~:uFiAG",
    "H nYA<YAB<YABH<YAG<YAGHH<BeBe ACADEMY YAJ<YAJ<YAD<YADH<YADD<YADDH<YEY<YAF<YAK<TUhEG YAK<YAK",
    "HH<YAH<BeBe ACADEMY YAH<TUhEG YAH<YAHH<YAA<YAKH<TUhEG YAKH<YAQ<TUhEG YAQ<YI<YAZH<AvGGh YAZH",
    "<TUhEG.<Yl<YAM<Yj<TUhEG YAGN=YjG<YAP<YU<Yh<YhR<YAGH<TUhEG YAGH<AYe.<YAS<YASS<YASH<YAT<YAp<Y",
    "ACH<YATT<YAV<YAW<YAY<YAZ<TAWELfMET YAZ<YAZZ<YE<YO~~~~~~~;MODIFIe nLABIlIZAuk MhK;SEPhATOR M",
    "hK"]⟩,
  ⟨0x2D7F, [
    ":uFiAGH CkSkjT JOie:EpIOPIC SYLLABf LOA<MOA<ROA<SOA<SHOA<BOA<TOA<COA<NOA<NYOA<GLOTTl OA<ZOA",
    "<xA<DxA<JOA<pOA<CHOA<PHOA<POA<GGWA<GGWI<GGWEE<GGWE~~~~~~~~~<SSA<SSU<St<SSAA<SSEE<SSE<SSO~<C",
    "CA<CCU<CCI<CCAA<CCEE<CCE<CCO~<ZZA<ZZU<ZZI<ZZAA<ZZEE<ZZE<ZZO~<CCv<CCHU<CCHI<CCvA<CCHEE<CCHE<",
    "CCHO~<QYA<QYU<QYI<QYAA<QYEE<QYE<QYO~<KYA<KYU<KYI<KYAA<KYEE<KYE<KYO~<XYA<XYU<XYI<XYAA<XYEE<X",
    "YE<XYO~<GYA<GYU<GYI<GYAA<GYEE<GYE<GYO~:COMBiiG CYRILLIC nBE=VE=GHE=DE=ZHE=ZE=KA=EL=EM=r=O=P",
    "E=e=ES=TE=v=TSE=CHE=Sv=SHCv=FITA=ES-TE=A=IE=DJeV=MkOGRAPH UK=YAT=YU=IOuFIoA=LITTf YUS=BIG.=",
    "IOuFIoBIG YUS:Rg jGf SUBSuTUuk MhKe<xTToSUBSuTUuk MhKe:fFT SUBSuTUuk BRACKET:Rg.:fFT xTToSU",
    "BSuTUuk BRACKET:Rg.:RAISoiTePOLAuk MhKe;xTToiTePOLAuk MhKe:xTToTRjSPOtuk MhKe:fFT TRjSPOtu",
    "k BRACKET:Rg.:RAISoSQUhE:fFT RAISoOMIStk BRACKET:Rg.:EDITORIl CORkIS:PhAGRAPHOS:FORKoPhAGRA",
    "PHOS:yVeSoFORKoPhAGRAPHOS:HYPODIASTOf:xTToOBELOS:xWNs jCORA:UPs.:xTToRg-POiTiG jGf:xUBf OBL",
    "IQUwHYPHr:iVeToiTeROBjG:PlM BRjCH:HYPHrcDIAeEtS:uLDEcRiGq:fFT LOW PhAPHRASwBRACKET:Rg.:uLDE",
    "cxTq=BELOW:fFT VeuCl BhcQUILL:Rg.:TOP fFT HlF BRACKET;Rg.:BOTTOM fFT.;Rg.:fFT tDEWAYS U.:Rg",
    ".:fFT xUBf PhrpEtS:Rg.:TWO xTS OVe kwxT PUNCTUAuk:kwxT OVe TWO xTS.:SQUhoFOUR xT PUNCTUAuk:",
    "FIVwxT MhK:yVeSoQUESuk.:VeuCl uLDE:RiG POiT:WORD SEPhATOR MIDDf xT:TURNoCOMMA:RAISoxT;COMMA",
    ":TURNoSEMICOLk:DAGGecfFT GUhD<Rg.:TURNoDAGGe:TOP HlF SECuk tGN:TWO-EM DASH:pyE-EM.:STrOGRAP",
    "HIC FULL STOP:VeuCl tX xTS:WIGGLY VeuCl LiE:CAPITULUM:xUBf HYPHr:yVeSoCOMMA:xUBf LOW-yVeSED",
    "-9 QUOTAuk MhK:DASHcfFT UPTURN:xUBf SUSPrtk MhK:iVeToLOW KAVYKA=WIp KAVYKAq:LOW KAVYKA<WIp ",
    "xT:xUBf STACKoCOMMA:xTToSOLIDUS:TRIPf DAGGe:MEDIEVl COMMA:PhAGRAPHUS MhK:PUNCTUS EfVATUS Mh",
    "K:CORNISH VeSwDIVIDe:CROSS PATTYcRg CROSSBh=fFT.:uRkIj tGN CAPITl ET:MEDIEVl EXCLAMAuk MhK;",
    "QUESuk.:fFT SQUhwBRACKETcSTROKE:Rg.:fFT SQUhwBRACKETcxUBf STROKE:Rg.:TOP HlF fFT PhrpEtS<Rg",
    ".:BOTTOM HlF fFT.<Rg.:OBLIQUwHYPHr"]⟩,
  ⟨0x2E80, [
    ":CJK RADICl yPEAT<CLIFF<SECkD kE=TWO=pyE<PeSk<BOX<TABf<KNIFwkE=TWO<DIViAuk<SEl<d kE=TWO<LAM",
    "wkE=TWO=pyE=FOUR<SNAKE<pyAD<SNOUT kE=TWO<HEhT kE=TWO<HjD<RAP~<CHOKE<SUN<MOk<DEAp<MOpe<CIVIL",
    "Ij<WATe kE=TWO<FIy<PAW kE=TWO<tMPLIFIoHlF TywTRUNK<COW<xG<JADE<BOLT OF CLOp<EYE<SPIRIT kE=T",
    "WO<BAMBOO<tLK<C-tMPLIFIotLK<NET kE=TWO=pyE=FOUR<MESH<SHEEP<RAM<EWE<OLD<BRUSH kE=TWO<MEAT<MO",
    "RTh<GRASS kE=TWO=pyE<uGe<CLOpES<WEST kE=TWO<C-tMPLIFIoSEE<tMPLIFIoHORN<HORN<C-tMPLIFIoSPEEC",
    "H=SHELL<FOOT<C-tMPLIFIoChT<tMPLIFIoWlK<WlK kE=TWO<CITY<C-tMPLIFIoGOLD<LkG kE=TWO<C-tMPLIFIo",
    "LkG=GATE<MOUND kE=TWO<RAi<BLUE<C-tMPLIFIoTjNofApe=fAF=WiD=FLY<EAT kE=TWO=pyE<C-tMPLIFIoEAT<",
    "HEAD<C-tMPLIFIoHORSE<BkE<GHOST<C-tMPLIFIoFISH=BIRD=SlT<tMPLIFIoWHEAT=YELLOW<C-tMPLIFIoFROG<",
    "J-tMPLIFIoEVr<C-tMPLIFIED.<J-tMPLIFIoTOOp<C-tMPLIFIED.<J-tMPLIFIoDRAGk<C-tMPLIFIED.<TURTf<J",
    "-tMPLIFIoTURTf<C-tMPLIFIED."]⟩,
  ⟨0x2F00, [
    ":KjGXI RADICl kE<LiE<xT<SLASH<SECkD<HOOK<TWO<LID<Mj<fGS<rTe<Eg<xWN BOX<COVe<ICE<TABf<OPr BO",
    "X<KNIFE<POWe<WRAP<SPOk<Rg OPr BOX<HIDiG rCLOSUy<Tr<DIViAuk<SEl<CLIFF<PRIVATE<AGAi<MOUp<rCLO",
    "SUy<Ehp<SCHOLh<GO=SLOWLY<EVriG<BIG<WOMj<CHILD<ROOF<iCH<d<LAME<CORPSE<SPROUT<MOUNTAi<RIVe<WO",
    "RK<kESELF<TURBj<DRY<SHORT pyAD<xTToCLIFF<LkG STRIDE<TWO HjDS<SHOOT<BOW<SNOUT<BRISTf<STEP<HE",
    "hT<HlBeD<xOR<HjD<BRjCH<RAP<SCRIPT<DIPPe<AXE<SQUhE<NOT<SUN<SAY<MOk<TyE<LACK<STOP<DEAp<WEAPk<",
    "x NOT<COMPhE<FUR<CLj<STEAM<WATe<FIy<CLAW<FApe<xUBf X<HlF TywTRUNK<SLICE<FjG<COW<xG<PROFOUND",
    "<JADE<MELk<uf<SWEET<LIFE<USE<FIELD<BOLT OF CLOp<tCKNESS<xTToTrT<WHITE<SKi<DISH<EYE<SPEh<hRO",
    "W<STkE<SPIRIT<TRACK<GRAi<CAVE<STjD<BAMBOO<RICE<tLK<Jh<NET<SHEEP<FEApe<OLD<jD<PLOW<Eh<BRUSH<",
    "MEAT<MiISTe<SELF<hRIVE<MORTh<TkGUE<OPPOSE<BOAT<STOPPiG<COLOR<GRASS<uGe<iSECT<BLOOD<WlK rCLO",
    "SUy<CLOpES<WEST<SEE<HORN<SPEECH<VlfY<BEj<PIG<BADGe<SHELL<yD<RUN<FOOT<BODY<ChT<BITTe<MORNiG<",
    "WlK<CITY<WiE<DISTiGUISH<VILLAGE<GOLD<LkG<GATE<MOUND<SLAVE<SHORT TAIfD BIRD<RAi<BLUE<WRkG<FA",
    "CE<fApe<TjNofApe<fEK<SOUND<fAF<WiD<FLY<EAT<HEAD<FRAGRjT<HORSE<BkE<TlL<vIR<Fg<SACRIFICIl WiE",
    "<CAULDRk<GHOST<FISH<BIRD<SlT<DEe<WHEAT<HEMP<YELLOW<MILfT<BLACK<EMBROIDeY<FROG<TRIPOD<DRUM<R",
    "AT<NOSE<EVr<TOOp<DRAGk<TURTf<FLUTE"]⟩,
  ⟨0x2FF0, [
    ":IDEOGRAPHIC DESCRIPuk CHhACTe fFT TO Rg=ABOVwTO BELOW=fFT TO MIDDf jD Rg=ABOVwTO MIDDf jD ",
    "BELOW=FULL SURROUND=SURROUND FROMq?BELOW?fFT?UPPe fFT@Rg?LOWe fFT=OVeLAID"]⟩]

end FieldSchema.Text
