import FieldSchema.Text.CharName.Listing

/-!
# Names of syllabic characters

The names of the characters from U+3000 to U+FFFF: the signs beside ideographs, the syllabaries of
East Asia and Africa, and the forms that exist for compatibility.

* `CharName.syllables`: the listings.
-/

namespace FieldSchema.Text

/-- The listings, in the order of the characters. -/
def CharName.syllables : List NameListing := [
  ⟨0x3000, [
    ":IDEOGRAPHIC SPACE;COMMA;FULL STOP:DITTO MhK:JAPjESwiDUSTRIl STjDhD SYMBOL:IDEOGRAPHIC ITeA",
    "uk MhK;CLOSiG.;NUMBe ZeO:fFT jGf BRACKET:Rg.:fFT xUBf jGf BRACKET:Rg.:fFT CORNe BRACKET:Rg.",
    ":fFT WHITwCORNe BRACKET:Rg.:fFT BLACK fNuCULh.:Rg.:POSTl MhK:GETA.:fFT TORTOISwSHELL BRACKE",
    "T:Rg.:fFT WHITwfNuCULh.:Rg.:fFT WHITwTORTOISwSHELL BRACKET:Rg.:fFT WHITwSQUhwBRACKET:Rg.:WA",
    "VwDASH:yVeSoxUBf PRIMwQUOTAuk MhK:xUBf PRIMwQUOTAuk MhK:LOW xUBf PRIMwQUOTAuk MhK:POSTl Mh",
    "K FACE:HjGZHOU NUMel kE<TWO<pyE<FOUR<FIVE<tX<SEVr<Eg<NiE:IDEOGRAPHIC fVEL TkwMhK;RISiG.;DEP",
    "hTiG.;rTeiG.:HjGUL SiGf xT TkwMhK;xUBf.:WAVY DASH:VeuCl KjA yPEAT MhK=WIp VOICoSOUND MhK=Mh",
    "K UPPe HlF=WIp VOICoSOUND MhK UPPe HlF=MhK LOWe HlF:CIRCfD POSTl MhK:IDEOGRAPHIC TEfGRAPH L",
    "iwFEoSEPhATOR SYMBOL:HjGZHOU NUMel Tr<TWrTY<pIRTY:VeuCl IDEOGRAPHIC ITeAuk MhK:MASU MhK:Ph",
    "T lTeNAuk MhK:IDEOGRAPHIC VhIAuk iDICATOR;HlF FILL SPACE~:HIRAGjA nd A<A<d I<I<d U<U<d E<E<",
    "d O<O<KA<GA<KI<GI<KU<GU<KE<GE<KO<GO<SA<ZA<t<ZI<SU<ZU<SE<ZE<SO<ZO<TA<DA<u<DI<d TU<TU<DU<TE<D",
    "E<TO<x<NA<NI<NU<NE<NO<v<BA<PA<HI<BI<PI<HU<BU<PU<HE<BE<PE<HO<BO<PO<MA<MI<MU<ME<MO<d YA<YA<d ",
    "YU<YU<d YO<YO<RA<RI<RU<y<RO<d WA<WA<WI<WE<WO<N<VU<d KA=KE~~:COMBiiG KATAKjA-HIRAGjA VOICoSO",
    "UND MhK<SEMI-VOICED.:KATAKjA-HIRAGjA VOICoSOUND MhK;SEMI-VOICED.:HIRAGjA ITeAuk MhK;VOICoIT",
    "eAuk MhK;DIGRAPH YORI:KATAKjA-HIRAGjA xUBf HYPHr:KATAKjA nd A<A<d I<I<d U<U<d E<E<d O<O<KA<",
    "GA<KI<GI<KU<GU<KE<GE<KO<GO<SA<ZA<t<ZI<SU<ZU<SE<ZE<SO<ZO<TA<DA<u<DI<d TU<TU<DU<TE<DE<TO<x<NA",
    "<NI<NU<NE<NO<v<BA<PA<HI<BI<PI<HU<BU<PU<HE<BE<PE<HO<BO<PO<MA<MI<MU<ME<MO<d YA<YA<d YU<YU<d Y",
    "O<YO<RA<RI<RU<y<RO<d WA<WA<WI<WE<WO<N<VU<d KA=KE<VA<VI<VE<VO;MIDDf xT:KATAKjA-HIRAGjA PROLk",
    "GoSOUND MhK:KATAKjA ITeAuk MhK;VOICoITeAuk MhK;DIGRAPH KOTO~~~~~:BOPOMOFO nB<P<M<F<D<T<N<L<",
    "G<K<H<J<Q<X<ZH<CH<SH<R<Z<C<S<A<O<E<EH<AI<EI<AU<OU<j<r<jG<rG<e<I<U<IU<V<NG<GN<IH<OcxTq<NN~:H",
    "jGUL nKIYEOK<SSjGKIYEOK<KIYEOK-tOS<NIEUN<NIEUN-CIEUC<NIEUN-HIEUH<uKEUT<SSjGuKEUT<RIEUL<RIEU",
    "L-KIYEOK<RIEUL-MIEUM<RIEUL-PIEUP<RIEUL-tOS<RIEUL-pIEUp<RIEUL-PHIEUPH<RIEUL-HIEUH<MIEUM<PIEU",
    "P<SSjGPIEUP<PIEUP-tOS<tOS<SSjGtOS<IEUNG<CIEUC<SSjGCIEUC<CHIEUCH<KHIEUKH<pIEUp<PHIEUPH<HIEUH",
    "<A<AE<YA<YAE<EO<E<YEO<YE<O<WA<WAE<OE<YO<U<WEO<WE<WI<YU<EU<YI<I;FILLe;nSSjGNIEUN<NIEUN-uKEUT",
    "<NIEUN-tOS<NIEUN-PjtOS<RIEUL-KIYEOK-tOS<RIEUL-uKEUT<RIEUL-PIEUP-tOS<RIEUL-PjtOS<RIEUL-YEORi",
    "HIEUH<MIEUM-PIEUP<MIEUM-tOS<MIEUM-PjtOS<KAPYEOUNMIEUM<PIEUP-KIYEOK<PIEUP-uKEUT<PIEUP-tOS-KI",
    "YEOK<PIEUP-tOS-uKEUT<PIEUP-CIEUC<PIEUP-pIEUp<KAPYEOUNPIEUP<KAPYEOUNSSjGPIEUP<tOS-KIYEOK<tOS",
    "-NIEUN<tOS-uKEUT<tOS-PIEUP<tOS-CIEUC<PjtOS<SSjGIEUNG<YEtEUNG<YEtEUNG-tOS<YEtEUNG-PjtOS<KAPY",
    "EOUNPHIEUPH<SSjGHIEUH<YEORiHIEUH<YO-YA<YO-YAE<YO-I<YU-YEO<YU-YE<YU-I<hAEA<hAEAE~:IDEOGRAPHI",
    "C jNOTAuk LiKiG MhK<yVeSE.<kE.<TWO.<pyE.<FOUR.<TOP.<MIDDf.<BOTTOM.<FIRST.<SECkD.<pIRD.<FOUR",
    "p.<HEAVr.<Ehp.<Mj.:BOPOMOFO nBU<ZI<JI<GU<EE<rN<OO<kN<IR<jN<iN<UNN<IM<NGG<AiN<AUNN<AM<OM<kG<",
    "iNN;Fil nP=T=K=H;nGH<LH<ZY;Fil nG;nGW<KW<OE<AH:CJK STROKwT<WG<XG<BXG<SW<HZZ<HZG<HP<HZWG<SZW",
    "G<HZT<HZZP<HPWG<HZW<HZZZ<N<H<S<P<SP<D<HZ<HG<SZ<SWZ<ST<SG<PD<PZ<TN<SZZ<SWG<HXWG<HZZZG<PG<Q"]⟩,
  ⟨0x31F0, [
    ":KATAKjA nd KU=t=SU=TO=NU=v=HI=HU=HE=HO=MU=RA=RI=RU=y=RO:PhrpEtZoHjGUL KIYEOK<NIEUN<uKEUT<R",
    "IEUL<MIEUM<PIEUP<tOS<IEUNG<CIEUC<CHIEUCH<KHIEUKH<pIEUp<PHIEUPH<HIEUH<KIYEOK A<NIEUN.<uKEUT.",
    "<RIEUL.<MIEUM.<PIEUP.<tOS.<IEUNG.<CIEUC.<CHIEUCH.<KHIEUKH.<pIEUp.<PHIEUPH.<HIEUH.<CIEUC U;K",
    "Oyj CHhACTe OJEk=O HU~;IDEOGRAPH kE<TWO<pyE<FOUR<FIVE<tX<SEVr<Eg<NiE<Tr<MOk<FIy<WATe<WOOD<M",
    "ETl<Ehp<SUN<STOCK<vVE<SOCIETY<NAME<SPECIl<FijCIl<CkGRATULAuk<LABOR<yPySrT<ClL<STUDY<SUPeVIS",
    "E<rTePRISE<ySOURCE<lLIjCE<FESuVl<yST<SELF<yACH:CIRCfD IDEOGRAPH QUESuk<KiDeGhTr<SCHOOL<KOTO",
    ";NUMBe Tr k BLACK SQUhE<TWrTY.<pIRTY.<FORTY.<FIFTY.<tXTY.<SEVrTY.<EgY.:PhTNeSHIP tGN:CIRCf",
    "D NUMBe TWrTY kE=TWO=pyE=FOUR=FIVE=tX=SEVr=Eg=NiE<pIRTY=kE=TWO=pyE=FOUR=FIVE;HjGUL KIYEOK<N",
    "IEUN<uKEUT<RIEUL<MIEUM<PIEUP<tOS<IEUNG<CIEUC<CHIEUCH<KHIEUKH<pIEUp<PHIEUPH<HIEUH<KIYEOK A<N",
    "IEUN.<uKEUT.<RIEUL.<MIEUM.<PIEUP.<tOS.<IEUNG.<CIEUC.<CHIEUCH.<KHIEUKH.<pIEUp.<PHIEUPH.<HIEU",
    "H.;KOyj CHhACTe CvMKO=JUEUI;HjGUL IEUNG U:KOyj STjDhD SYMBOL:CIRCfD IDEOGRAPH kE<TWO<pyE<FO",
    "UR<FIVE<tX<SEVr<Eg<NiE<Tr<MOk<FIy<WATe<WOOD<METl<Ehp<SUN<STOCK<vVE<SOCIETY<NAME<SPECIl<FijC",
    "Il<CkGRATULAuk<LABOR<SECyT<MAf<FEMAf<SUITABf<EXCELfNT<PRiT<ATTruk<ITEM<yST<COPY<CORyCT<HIGH",
    "<CrTy<LOW<fFT<Rg<MEDICiE<yLIGIk<STUDY<SUPeVISE<rTePRISE<ySOURCE<lLIjCE<Ng;NUMBe pIRTY tX=SE",
    "Vr=Eg=NiE<FORTY=kE=TWO=pyE=FOUR=FIVE=tX=SEVr=Eg=NiE<FIFTY:IDEOGRAPHIC TEfGRAPH SYMBOL FOR J",
    "jUhY>FEBRUhY>MhCH>APRIL>MAY>JUNE>JULY>AUGUST>SEPTEMBe>OCTOBe>NOVEMBe>DECEMBe:SQUhwHG;eG;EV:",
    "LIMIToLIABILITY tGN:CIRCfD KATAKjA A<I<U<E<O<KA<KI<KU<KE<KO<SA<t<SU<SE<SO<TA<u<TU<TE<TO<NA<",
    "NI<NU<NE<NO<v<HI<HU<HE<HO<MA<MI<MU<ME<MO<YA<YU<YO<RA<RI<RU<y<RO<WA<WI<WE<WO:SQUhweA NAMwyIW",
    "A;APAATO;hUHUA;jPEA;AhU;iiGU;iu;Uk;ESUKUUx;EEKAA;kSU;OOMU;KAIRI;KhATTO;KhORII;Ghk;GjMA;GIGA",
    ";GiII;KYURII;GIRUDAA;KIRO;KIROGURAMU;KIROMEETORU;KIROWATTO;GURAMU;GURAMUTk;KURUZEIRO;KUROkE",
    ";KEESU;KORUNA;KOOPO;SAIKURU;SjuIMU;tRiGU;Sru;SrTO;DAASU;DEt;xRU;Tk;NjO;NOTTO;vITU;PAASrTO;P",
    "AATU;BAheU;PIASUTORU;PIKURU;PIKO;BIRU;HUhADx;HUIITO;BUSSYeU;HURj;HEKUTAhU;PESO;PrIHI;HeUTU;",
    "PrSU;PEEZI;BEETA;POiTO;BORUTO;Hk;Pkx;HOORU;HOk;MAIKURO;MAIRU;MAHv;MhUKU;MjSYk;MIKURk;MIRI;M",
    "IRIBAhU;MEGA;MEGATk;MEETORU;YAAx;YAhU;YUj;RITTORU;RIRA;RUPII;RUUBURU;yMU;RrTOGr;WATTO:IDEOG",
    "RAPHIC TEfGRAPH SYMBOL FOR HOUR ZeO?kE?TWO?pyE?FOUR?FIVE?tX?SEVr?Eg?NiE?Tr?EfVr?TWELVE?pIRT",
    "Er?FOURTEr?FIFTEr?tXTEr?SEVrTEr?EgEr?NiETEr?TWrTY?TWrTY-kE?TWrTY-TWO?TWrTY-pyE?TWrTY-FOUR:S",
    "QUhwHPA;DA;AU;Bh;OV;PC;DM<SQUhED<CUBED;IU;eA NAMwHEISEI=SYOUWA=TAISYOU=MEIZI;CORPORAuk;PA A",
    "MPS;NA;MU A;MA;KA;KB;MB;GB;Cl;KCl;PF;NF;MU F<G;MG;KG;HZ;KHZ;MHZ;GHZ;pZ;MU L;ML;DL;KL;FM;NM;",
    "MU M;MM;CM;KM;MM SQUhED;CM.;M.;KM.;MM CUBED;CM.;M.;KM.;M OVe S>SQUhED;PA;KPA;MPA;GPA;RAD<OV",
    "e S>SQUhED;PS;NS;MU S;MS;PV;NV;MU V;MV;KV;MV MEGA;PW;NW;MU W;MW;KW;MW MEGA;K OHM;M.;AM;BQ;C",
    "C;CD;C OVe KG;CO;DB;GY;v;HP;i;KK;KM CAPITl;KT;LM;LN;LOG;LX;MB d;MIL;MOL;PH;PM;PPM;PR;SR;SV;",
    "WB;V OVe M;A.:IDEOGRAPHIC TEfGRAPH SYMBOL FOR DAY kE?TWO?pyE?FOUR?FIVE?tX?SEVr?Eg?NiE?Tr?Ef",
    "Vr?TWELVE?pIRTEr?FOURTEr?FIFTEr?tXTEr?SEVrTEr?EgEr?NiETEr?TWrTY?TWrTY-kE?TWrTY-TWO?TWrTY-py",
    "E?TWrTY-FOUR?TWrTY-FIVE?TWrTY-tX?TWrTY-SEVr?TWrTY-Eg?TWrTY-NiE?pIRTY?pIRTY-kE:SQUhwGl"]⟩,
  ⟨0x4DC0, [
    ":HEXAGRAM FOR pwCyAuVwHEAVr=yCEPuVwEhp<DIFFICULTY AT pwBEGiNiG<YOUpFUL FOLLY<WAITiG<CkFLICT",
    "<pwhMY<HOLDiG TOGEpe<d TAMiG<TyADiG<PEACE<STjDSuLL<FELLOWSHIP<GyAT POSSEStk<MODESTY<rpUtASM",
    "<FOLLOWiG<WORK k pwDECAYED<APPROACH<CkTEMPLAuk<BITiG pROUGH<GRACE<SPLITTiG APhT<yTURN<iNOCr",
    "CE<GyAT TAMiG<MOUp CORNeS<GyAT PyPkDejCE<pwABYSMl WATe=CLiGiG FIy<iFLUrCE<DURAuk<yTyAT<GyA",
    "T POWe<PROGySS<DhKriG OF pwLg<pwFAMILY<OPPOtuk<OBSTRUCuk<DELIVejCE<DECyASE<iCyASE<ByAKpROUG",
    "H<COMiG TO MEET<GApeiG TOGEpe<PUSHiG UPWhD<OPPyStk<pwWELL<yVOLUuk<pwCAULDRk=hOUSiG pUNDe=KE",
    "EPiG SuLL MOUNTAi<DEVELOPMrT<pwMhRYiG MAIDr<ABUNDjCE<pwWjDee=GrTf WiD=JOYOUS LAKE<DISPetk<L",
    "IMITAuk<iNe TRUp<d PyPkDejCE<AFTe COMPfuk<BEFOy."]⟩,
  ⟨0xA000, [
    ":YI SYLLABf IT<IX<I<IP<IET<IEX<IE<IEP<AT<AX<A<AP<UOX<UO<UOP<OT<OX<O<OP<EX<E<WU<BIT<BIX<BI<B",
    "IP<BIET<BIEX<BIE<BIEP<BAT<BAX<BA<BAP<BUOX<BUO<BUOP<BOT<BOX<BO<BOP<BEX<BE<BEP<BUT<BUX<BU<BUP",
    "<BURX<BUR<BYT<BYX<BY<BYP<BYRX<BYR<PIT<PIX<PI<PIP<PIEX<PIE<PIEP<PAT<PAX<PA<PAP<PUOX<PUO<PUOP",
    "<POT<POX<PO<POP<PUT<PUX<PU<PUP<PURX<PUR<PYT<PYX<PY<PYP<PYRX<PYR<BBIT<BBIX<BBI<BBIP<BBIET<BB",
    "IEX<BBIE<BBIEP<BBAT<BBAX<BBA<BBAP<BBUOX<BBUO<BBUOP<BBOT<BBOX<BBO<BBOP<BBEX<BBE<BBEP<BBUT<BB",
    "UX<BBU<BBUP<BBURX<BBUR<BBYT<BBYX<BBY<BBYP<NBIT<NBIX<NBI<NBIP<NBIEX<NBIE<NBIEP<NBAT<NBAX<NBA",
    "<NBAP<NBOT<NBOX<NBO<NBOP<NBUT<NBUX<NBU<NBUP<NBURX<NBUR<NBYT<NBYX<NBY<NBYP<NBYRX<NBYR<HMIT<H",
    "MIX<HMI<HMIP<HMIEX<HMIE<HMIEP<HMAT<HMAX<HMA<HMAP<HMUOX<HMUO<HMUOP<HMOT<HMOX<HMO<HMOP<HMUT<H",
    "MUX<HMU<HMUP<HMURX<HMUR<HMYX<HMY<HMYP<HMYRX<HMYR<MIT<MIX<MI<MIP<MIEX<MIE<MIEP<MAT<MAX<MA<MA",
    "P<MUOT<MUOX<MUO<MUOP<MOT<MOX<MO<MOP<MEX<ME<MUT<MUX<MU<MUP<MURX<MUR<MYT<MYX<MY<MYP<FIT<FIX<F",
    "I<FIP<FAT<FAX<FA<FAP<FOX<FO<FOP<FUT<FUX<FU<FUP<FURX<FUR<FYT<FYX<FY<FYP<VIT<VIX<VI<VIP<VIET<",
    "VIEX<VIE<VIEP<VAT<VAX<VA<VAP<VOT<VOX<VO<VOP<VEX<VEP<VUT<VUX<VU<VUP<VURX<VUR<VYT<VYX<VY<VYP<",
    "VYRX<VYR<DIT<DIX<DI<DIP<DIEX<DIE<DIEP<DAT<DAX<DA<DAP<DUOX<DUO<xT<xX<x<xP<DEX<DE<DEP<DUT<DUX",
    "<DU<DUP<DURX<DUR<uT<uX<u<uP<uEX<uE<uEP<TAT<TAX<TA<TAP<TUOT<TUOX<TUO<TUOP<TOT<TOX<TO<TOP<TEX",
    "<TE<TEP<TUT<TUX<TU<TUP<TURX<TUR<DDIT<DDIX<DDI<DDIP<DDIEX<DDIE<DDIEP<DDAT<DDAX<DDA<DDAP<DDUO",
    "X<DDUO<DDUOP<DxT<DxX<Dx<DxP<DDEX<DDE<DDEP<DDUT<DDUX<DDU<DDUP<DDURX<DDUR<NDIT<NDIX<NDI<NDIP<",
    "NDIEX<NDIE<NDAT<NDAX<NDA<NDAP<NxT<NxX<Nx<NxP<NDEX<NDE<NDEP<NDUT<NDUX<NDU<NDUP<NDURX<NDUR<HN",
    "IT<HNIX<HNI<HNIP<HNIET<HNIEX<HNIE<HNIEP<HNAT<HNAX<HNA<HNAP<HNUOX<HNUO<HNOT<HNOX<HNOP<HNEX<H",
    "NE<HNEP<HNUT<NIT<NIX<NI<NIP<NIEX<NIE<NIEP<NAX<NA<NAP<NUOX<NUO<NUOP<NOT<NOX<NO<NOP<NEX<NE<NE",
    "P<NUT<NUX<NU<NUP<NURX<NUR<HLIT<HLIX<HLI<HLIP<HLIEX<HLIE<HLIEP<HLAT<HLAX<HLA<HLAP<HLUOX<HLUO",
    "<HLUOP<HLOX<HLO<HLOP<HfX<Hf<HfP<HLUT<HLUX<HLU<HLUP<HLURX<HLUR<HLYT<HLYX<HLY<HLYP<HLYRX<HLYR",
    "<LIT<LIX<LI<LIP<LIET<LIEX<LIE<LIEP<LAT<LAX<LA<LAP<LUOT<LUOX<LUO<LUOP<LOT<LOX<LO<LOP<fX<f<fP",
    "<LUT<LUX<LU<LUP<LURX<LUR<LYT<LYX<LY<LYP<LYRX<LYR<GIT<GIX<GI<GIP<GIET<GIEX<GIE<GIEP<GAT<GAX<",
    "GA<GAP<GUOT<GUOX<GUO<GUOP<GOT<GOX<GO<GOP<GET<GEX<GE<GEP<GUT<GUX<GU<GUP<GURX<GUR<KIT<KIX<KI<",
    "KIP<KIEX<KIE<KIEP<KAT<KAX<KA<KAP<KUOX<KUO<KUOP<KOT<KOX<KO<KOP<KET<KEX<KE<KEP<KUT<KUX<KU<KUP",
    "<KURX<KUR<GGIT<GGIX<GGI<GGIEX<GGIE<GGIEP<GGAT<GGAX<GGA<GGAP<GGUOT<GGUOX<GGUO<GGUOP<GGOT<GGO",
    "X<GGO<GGOP<GGET<GGEX<GGE<GGEP<GGUT<GGUX<GGU<GGUP<GGURX<GGUR<MGIEX<MGIE<MGAT<MGAX<MGA<MGAP<M",
    "GUOX<MGUO<MGUOP<MGOT<MGOX<MGO<MGOP<MGEX<MGE<MGEP<MGUT<MGUX<MGU<MGUP<MGURX<MGUR<HXIT<HXIX<HX",
    "I<HXIP<HXIET<HXIEX<HXIE<HXIEP<HXAT<HXAX<HXA<HXAP<HXUOT<HXUOX<HXUO<HXUOP<HXOT<HXOX<HXO<HXOP<",
    "HXEX<HXE<HXEP<NGIEX<NGIE<NGIEP<NGAT<NGAX<NGA<NGAP<NGUOT<NGUOX<NGUO<NGOT<NGOX<NGO<NGOP<NGEX<",
    "NGE<NGEP<HIT<HIEX<HIE<vT<vX<v<vP<HUOT<HUOX<HUO<HUOP<HOT<HOX<HO<HOP<HEX<HE<HEP<WAT<WAX<WA<WA",
    "P<WUOX<WUO<WUOP<WOX<WO<WOP<WEX<WE<WEP<ZIT<ZIX<ZI<ZIP<ZIEX<ZIE<ZIEP<ZAT<ZAX<ZA<ZAP<ZUOX<ZUO<",
    "ZUOP<ZOT<ZOX<ZO<ZOP<ZEX<ZE<ZEP<ZUT<ZUX<ZU<ZUP<ZURX<ZUR<ZYT<ZYX<ZY<ZYP<ZYRX<ZYR<CIT<CIX<CI<C",
    "IP<CIET<CIEX<CIE<CIEP<CAT<CAX<CA<CAP<CUOX<CUO<CUOP<COT<COX<CO<COP<CEX<CE<CEP<CUT<CUX<CU<CUP",
    "<CURX<CUR<CYT<CYX<CY<CYP<CYRX<CYR<ZZIT<ZZIX<ZZI<ZZIP<ZZIET<ZZIEX<ZZIE<ZZIEP<ZZAT<ZZAX<ZZA<Z",
    "ZAP<ZZOX<ZZO<ZZOP<ZZEX<ZZE<ZZEP<ZZUX<ZZU<ZZUP<ZZURX<ZZUR<ZZYT<ZZYX<ZZY<ZZYP<ZZYRX<ZZYR<NZIT",
    "<NZIX<NZI<NZIP<NZIEX<NZIE<NZIEP<NZAT<NZAX<NZA<NZAP<NZUOX<NZUO<NZOX<NZOP<NZEX<NZE<NZUX<NZU<N",
    "ZUP<NZURX<NZUR<NZYT<NZYX<NZY<NZYP<NZYRX<NZYR<tT<tX<t<tP<tEX<tE<tEP<SAT<SAX<SA<SAP<SUOX<SUO<",
    "SUOP<SOT<SOX<SO<SOP<SEX<SE<SEP<SUT<SUX<SU<SUP<SURX<SUR<SYT<SYX<SY<SYP<SYRX<SYR<StT<StX<St<S",
    "tP<StEX<StE<StEP<SSAT<SSAX<SSA<SSAP<SSOT<SSOX<SSO<SSOP<SSEX<SSE<SSEP<SSUT<SSUX<SSU<SSUP<SSY",
    "T<SSYX<SSY<SSYP<SSYRX<SSYR<ZvT<ZvX<Zv<ZvP<ZHUOX<ZHUO<ZHUOP<ZHOT<ZHOX<ZHO<ZHOP<ZHET<ZHEX<ZHE",
    "<ZHEP<ZHUT<ZHUX<ZHU<ZHUP<ZHURX<ZHUR<ZHYT<ZHYX<ZHY<ZHYP<ZHYRX<ZHYR<CvT<CvX<Cv<CvP<CHUOT<CHUO",
    "X<CHUO<CHUOP<CHOT<CHOX<CHO<CHOP<CHET<CHEX<CHE<CHEP<CHUX<CHU<CHUP<CHURX<CHUR<CHYT<CHYX<CHY<C",
    "HYP<CHYRX<CHYR<RRAX<RRA<RRUOX<RRUO<RROT<RROX<RRO<RROP<RyT<RyX<Ry<RyP<RRUT<RRUX<RRU<RRUP<RRU",
    "RX<RRUR<RRYT<RRYX<RRY<RRYP<RRYRX<RRYR<NRAT<NRAX<NRA<NRAP<NROX<NRO<NROP<NyT<NyX<Ny<NyP<NRUT<",
    "NRUX<NRU<NRUP<NRURX<NRUR<NRYT<NRYX<NRY<NRYP<NRYRX<NRYR<SvT<SvX<Sv<SvP<SHUOX<SHUO<SHUOP<SHOT",
    "<SHOX<SHO<SHOP<SHET<SHEX<SHE<SHEP<SHUT<SHUX<SHU<SHUP<SHURX<SHUR<SHYT<SHYX<SHY<SHYP<SHYRX<SH",
    "YR<RAT<RAX<RA<RAP<RUOX<RUO<RUOP<ROT<ROX<RO<ROP<yX<y<yP<RUT<RUX<RU<RUP<RURX<RUR<RYT<RYX<RY<R",
    "YP<RYRX<RYR<JIT<JIX<JI<JIP<JIET<JIEX<JIE<JIEP<JUOT<JUOX<JUO<JUOP<JOT<JOX<JO<JOP<JUT<JUX<JU<",
    "JUP<JURX<JUR<JYT<JYX<JY<JYP<JYRX<JYR<QIT<QIX<QI<QIP<QIET<QIEX<QIE<QIEP<QUOT<QUOX<QUO<QUOP<Q",
    "OT<QOX<QO<QOP<QUT<QUX<QU<QUP<QURX<QUR<QYT<QYX<QY<QYP<QYRX<QYR<JJIT<JJIX<JJI<JJIP<JJIET<JJIE",
    "X<JJIE<JJIEP<JJUOX<JJUO<JJUOP<JJOT<JJOX<JJO<JJOP<JJUT<JJUX<JJU<JJUP<JJURX<JJUR<JJYT<JJYX<JJ",
    "Y<JJYP<NJIT<NJIX<NJI<NJIP<NJIET<NJIEX<NJIE<NJIEP<NJUOX<NJUO<NJOT<NJOX<NJO<NJOP<NJUX<NJU<NJU",
    "P<NJURX<NJUR<NJYT<NJYX<NJY<NJYP<NJYRX<NJYR<NYIT<NYIX<NYI<NYIP<NYIET<NYIEX<NYIE<NYIEP<NYUOX<",
    "NYUO<NYUOP<NYOT<NYOX<NYO<NYOP<NYUT<NYUX<NYU<NYUP<XIT<XIX<XI<XIP<XIET<XIEX<XIE<XIEP<XUOX<XUO",
    "<XOT<XOX<XO<XOP<XYT<XYX<XY<XYP<XYRX<XYR<YIT<YIX<YI<YIP<YIET<YIEX<YIE<YIEP<YUOT<YUOX<YUO<YUO",
    "P<YOT<YOX<YO<YOP<YUT<YUX<YU<YUP<YURX<YUR<YYT<YYX<YY<YYP<YYRX<YYR~~~;RADICl QOT<LI<KIT<NYIP<",
    "CYP<St<GGOP<GEP<MI<HXIT<LYR<BBUT<MOP<YO<PUT<HXUO<TAT<GA<ZUP<CYT<DDUR<BUR<GGUO<NYOP<TU<OP<JJ",
    "UT<ZOT<PYT<HMO<YIT<VUR<SHY<VEP<ZA<JO<NZUP<JJY<GOT<JJIE<WO<DU<SHUR<LIE<CY<CUOP<CIP<HXOP<SvT<",
    "ZUR<SHOP<CHE<ZZIET<NBIE<KE~~~~~~~~~:LISU nBA<PA<Pv<DA<TA<pA<GA<KA<Kv<JA<CA<Cv<DZA<TSA<TSv<M",
    "A<NA<LA<SA<Zv<ZA<NGA<v<XA<Hv<FA<WA<Sv<YA<Gv<A<AE<E<EU<I<O<U<UE<UH<OE<TkwMYA u=NA PO=MYA CYA",
    ">BO>NA>JEU;PUNCTUAuk COMMA<FULL STOP:VAI SYLLABf EE<Er<HEE<WEE<WEr<PEE<BHEE<BEE<MBEE<KPEE<M",
    "GBEE<GBEE<FEE<VEE<TEE<pEE<DHEE<DHHEE<fE<yE<DEE<NDEE<SEE<SHEE<ZEE<ZHEE<CEE<JEE<NJEE<YEE<KEE<",
    "NGGEE<GEE<MEE<NEE<NYEE<I<i<HI<Hi<WI<Wi<PI<BHI<BI<MBI<KPI<MGBI<GBI<FI<VI<u<pI<DHI<DHHI<LI<RI",
    "<DI<NDI<t<SHI<ZI<ZHI<CI<JI<NJI<YI<KI<NGGI<GI<MI<NI<NYI<A<j<NGj<v<Hj<WA<Wj<PA<Bv<BA<MBA<KPA<",
    "KPj<MGBA<GBA<FA<VA<TA<pA<Dv<DHv<LA<RA<DA<NDA<SA<Sv<ZA<Zv<CA<JA<NJA<YA<KA<Kj<NGGA<GA<MA<NA<N",
    "YA<OO<Ok<HOO<WOO<WOk<POO<BHOO<BOO<MBOO<KPOO<MGBOO<GBOO<FOO<VOO<TOO<pOO<DHOO<DHHOO<LOO<ROO<x",
    "O<NxO<SOO<SHOO<ZOO<ZHOO<COO<JOO<NJOO<YOO<KOO<NGGOO<GOO<MOO<NOO<NYOO<U<UN<HU<HUN<WU<WUN<PU<B",
    "HU<BU<MBU<KPU<MGBU<GBU<FU<VU<TU<pU<DHU<DHHU<LU<RU<DU<NDU<SU<SHU<ZU<ZHU<CU<JU<NJU<YU<KU<NGGU",
    "<GU<MU<NU<NYU<O<k<NGk<HO<Hk<WO<Wk<PO<BHO<BO<MBO<KPO<MGBO<GBO<GBk<FO<VO<TO<pO<DHO<DHHO<LO<RO",
    "<x<Nx<SO<SHO<ZO<ZHO<CO<JO<NJO<YO<KO<NGGO<GO<MO<NO<NYO<E<r<NGr<HE<Hr<WE<Wr<PE<BHE<BE<MBE<KPE",
    "<KPr<MGBE<GBE<GBr<FE<VE<TE<pE<DHE<DHHE<f<y<DE<NDE<SE<SHE<ZE<ZHE<CE<JE<NJE<YE<KE<NGGE<NGGr<G",
    "E<Gr<ME<NE<NYE<NG<fNGpre;COMMA;FULL STOP;QUESuk MhK;SYLLABf Nxf FA=KA=SOO;SYMBOL FErG<KErG<",
    "TiG<NII<BjG<FAA<TAA<DjG<xkG<KUNG<TkG<x-O<JkG;DIGIT ZeO<kE<TWO<pyE<FOUR<FIVE<tX<SEVr<Eg<NiE;",
    "SYLLABf Nxf MA=x"]⟩,
  ⟨0xA640, [
    ":CYRILLIC zZEMLYA;d.;zDZELO;d.;zyVeSoDZE;d.;zIOTA;d.;zDJeV;d.;zMkOGRAPH UK;d.;zBROAD OMEGA;",
    "d.;zNEUTRl Ye;d.;zYeUcBACK Ye;d.;zIOuFIoYAT;d.;zyVeSoYU;d.;zIOuFIoA;d.;zCLOSoLITTf YUS;d.;z",
    "BfNDoYUS;d.;zIOuFIoCLOSoLITTf YUS;d.;zYN;d.;zyVeSoTSE;d.;zSOFT DE;d.;zSOFT EL;d.;zSOFT EM;d",
    ".;zMkOCULh O;d.;zBiOCULh.;d.;zxUBf MkOCULh O;d.;nMULuOCULh O:COMBiiG CYRILLIC VZMET<Tr MILL",
    "IkS tGN<HUNDyD.<pOUSjD.:SLAVkIC ASTeISK:COMBiiG CYRILLIC nUKRAiIj IE=I=YI=U=HhD tGN=YeU=SOF",
    "T tGN=OMEGA<KAVYKA<PAYeOK:CYRILLIC KAVYKA;PAYeOK;zDWE;d.;zDZWE;d.;zZHWE;d.;zCCHE;d.;zDZZE;d",
    ".;zTEcMIDDf HOOK;d.;zTWE;d.;zTSWE;d.;zTSSE;d.;zTCHE;d.;zHWE;d.;zSHWE;d.;zxUBf O;d.;zCROSSED",
    ".;d.:MODIFIe nCYRILLIC HhD tGN=SOFT.:COMBiiG CYRILLIC nEF=IOuFIoE:BAMUM nA<KA<U<KU<EE<yE<TA",
    "E<O<NYI<I<LA<PA<RII<RIEE<fEEE<MEEEE<TAA<NDAA<NJAEM<M<SUU<MU<SHII<t<SHEUX<SEUX<KYEE<KET<NUAE",
    "<NU<NJUAE<YOQ<SHU<YUQ<YA<NSv<KEUX<PEUX<NJEE<NTEE<PUE<WUE<PEE<FEE<RU<LU<MI<NI<yUX<RAE<Kr<NGK",
    "WAr<NGGA<NGA<SHO<PUAE<FU<FOM<WA<NA<LI<PI<LOQ<KO<MBr<Rr<Mr<MA<u<KI<MO<MBAA<TET<KPA<Tr<NTUU<S",
    "AMBA<FAAMAE<KOVUU<KOGHOM;COMBiiG MhK KOQNDk=TUKWruS;NJAEMLI;FULL STOP;COLk;COMMA;SEMICOLk;Q",
    "UESuk MhK~~~~~~~~:MODIFIe nCHiESwTkwYi PiG>YjG.>Yi SHjG>YjG.>Yi QU>YjG.>Yi RU>YjG.<EXTRA-HI",
    "GH xTToTkwBh<HIGH.<MID.<LOW.<EXTRA-LOW.<EXTRA-HIGH xTTofFT-STEM TkwBh<HIGH.<MID.<LOW.<EXTRA",
    "-LOW.<EXTRA-HIGH fFT-STEM TkwBh<HIGH.<MID.<LOW.<EXTRA-LOW.<xT VeuCl Bh=SLASH=HORIZkTl Bh<LO",
    "We Rg CORNe jGf<RAISoUP hROW=xWN.=EXCLAMAuk MhK=iVeToEXCLAMAuk MhK<LOW.<STySS jD HIGH TkE>L",
    "OW.:LATi zEGYPTOLOGICl AfF;d.;zEGYPTOLOGICl Ai;d.;zHrG;d.;zTZ;d.;zTytLLO;d.;zCUATRILLO;d.;z",
    "CUATRILLOcCOMMA;d.;nd CAPITl F>S;zAA;d.;zAO;d.;zAU;d.;zAV;d.;zAVcHORIZkTl Bh;d.;zAY;d.;zyVe",
    "SoCcxT;d.;zKcSTROKE;d.;zKcDIAGkl STROKE;d.;zKcSTROKwjD DIAGkl STROKE;d.;zBROKr L;d.;zLcHIG",
    "H STROKE;d.;zOcLkG STROKwOVeLAY;d.;zOcLOOP;d.;zOO;d.;zPcSTROKwpROUGH DESCrDe;d.;zPcFLOURISH",
    ";d.;zPcSQUIRyL TAIL;d.;zQcSTROKwpROUGH DESCrDe;d.;zQcDIAGkl STROKE;d.;zR ROTUNDA;d.;zRUM.;d",
    ".;zVcDIAGkl STROKE;d.;zVY;d.;zVItGOpIC Z;d.;zpORNcSTROKE;d.;zpORNcSTROKwpROUGH DESCrDe;d.;z",
    "VrD;d.;zET;d.;zIS;d.;zCk;d.:MODIFIe nUS:LATi d nDUM=LUM=MUM=NUM=RUM;nd CAPITl RUM;d nTUM=UM",
    ";ziSULh D;d.;ziSULh F;d.;ziSULh G=TURNoiSULh G;d.;zTURNoL;d.;ziSULh R;d.;ziSULh S;d.;ziSUL",
    "h T;d.:MODIFIe nLOW CIRCUMFfX ACCrT<COLk<SHORT EQUlS tGN:LATi zSluLLO;d.;zTURNoH;d nLcyTROF",
    "fX HOOK jD BELT;nSiOLOGICl xT;zNcDESCrDe;d.;zCcBh;d.?PlATl HOOK=H.;zBcFLOURISH;d.;zFcSTROKE",
    ";d.;zVOLAPUK AE;d.;zVOLAPUK OE;d.;zVOLAPUK UE;d.;zGcOBLIQUwSTROKE;d.;zK.;d.;zN.;d.;zR.;d.;z",
    "S.;d.;zHcHOOK=yVeSoOPr E=SCRIPT G=LcBELT=d CAPITl I;nd CAPITl Q;zTURNoK>T=JcCROSSED-TAIL=CH",
    "I=BETA;d.;zOMEGA;d.;zUcSTROKE;d.;zGLOTTl A;d.;zGLOTTl I;d.;zGLOTTl U;d.;zOLD POLISH O;d.;zj",
    "GLICjA W;d.;zCcPlATl HOOK=ScHOOK=ZcPlATl HOOK=DcSHORT STROKwOVeLAY;d.;zS.;d.~~~~~;zCLOSoiSU",
    "Lh G;d.~=xUBf pORN~>WYNN;zMIDDf SCOTS S;d.;ztGMOID S;d."]⟩,
  ⟨0xA7F2, [
    ":MODIFIe nCAPITl C=F=Q:LATi zyVeSoHlF H;d.;EPIGRAPHIC ntDEWAYS I:MODIFIe nCAPITl HcSTROKE<",
    "d LIGATURwOE:LATi nd CAPITl TURNoM;EPIGRAPHIC nyVeSoF>P=iVeToM=I LkGA=hCvIC M:SYLOu NAGRI n",
    "A=I<tGN DVISVhA<nU=E=O<tGN vSjTA<nKO=KHO=GO=GHO<tGN jUSVhA<nCO=CHO=JO=JHO=TTO=TpO=Dx=DDHO=T",
    "O=pO=x=DHO=NO=PO=PHO=BO=BHO=MO=RO=LO=RRO=SO=HO<VOWEL tGN A>I>U>E>OO<POETRY MhK-1=MhK-2=MhK-",
    "3=MhK-4<tGN lTeNATwvSjTA~~~:NORp iDIC FRACuk kwQUhTe>HlF=pywQUhTeS=kwtXTErp>EgH=pywtXTErpS<",
    "QUhTe MhK<PLACEHOLDe.<RUPEE.<QUjuTY.~~~~~~:PvGS-PA nKA<Kv<GA<NGA<CA<Cv<JA<NYA<TA<pA<DA<NA<P",
    "A<Pv<BA<MA<TSA<TSv<DZA<WA<Zv<ZA<d A<YA<RA<LA<Sv<SA<v<A<I<U<E<O<QA<XA<FA<GGA<EE;SUBJOionWA=Y",
    "A;nTTA<TpA<DDA<NNA<lTeNATwYA<VOICEfSS Sv<VOICov<ASPIRAToFA;SUBJOionRA;SUPeFIXED.;nCjDRABiDU",
    ";SiGf HEAD MhK;xUBf.;MhK SvD<xUBf SvD~~~~~~~~:SAURASHTRA tGN jUSVhA<VIShGA;nA<AA<I<II<U<UU<",
    "VOClIC R=RR=L=LL<E<EE<AI<O<OO<AU<KA<Kv<GA<Gv<NGA<CA<Cv<JA<Jv<NYA<TTA<TpA<DDA<DDv<NNA<TA<pA<",
    "DA<Dv<NA<PA<Pv<BA<Bv<MA<YA<RA<LA<VA<Sv<SSA<SA<v<LLA;CkSkjT tGN vhU;VOWEL tGN AA=I=II=U=UU=V",
    "OClIC R>RR>L>LL=E=EE=AI=O=OO=AU;tGN VIRAMA<CjDRABiDU~~~~~~~~;DjDA;xUBf DjDA;DIGIT ZeO<kE<TW",
    "O<pyE<FOUR<FIVE<tX<SEVr<Eg<NiE~~~~~~:COMBiiG DEVjAGhI DIGIT ZeO=kE=TWO=pyE=FOUR=FIVE=tX=SEV",
    "r=Eg=NiE<nA=U=KA=NA=PA=RA=VI<tGN AVAGRAv:DEVjAGhI tGN SPACiG CjDRABiDU<CjDRABiDU VIRAMA<xUB",
    "f CjDRABiDU VIRAMA<CjDRABiDU TWO=pyE=AVAGRAv<PUSHPIKA;GAP FILLe;ChET;HEADSTROKE;tGN tDDvM;J",
    "Ai OM;nAY;VOWEL tGN AY:KAYAH LI DIGIT ZeO=kE=TWO=pyE=FOUR=FIVE=tX=SEVr=Eg=NiE<nKA=Kv=GA=NGA",
    "=SA=Sv=ZA=NYA=TA=HTA=NA=PA=Pv=MA=DA=BA=RA=YA=LA=WA=pA=v=VA=CA=A=OE=I=OO<VOWEL UE=E=U=EE=O<T",
    "kwPLOPHU=ClYA>PLOPHU<tGN CWI=SHYA:yJjG nKA<GA<NGA<TA<DA<NA<PA<BA<MA<CA<JA<NYA<SA<RA<LA<YA<W",
    "A<v<MBA<NGGA<NDA<NYJA<A;VOWEL tGN I=U=E=AI=O=AU=EU=EA;CkSkjT tGN NG=N=R=H;VIRAMA~~~~~~~~~~~",
    ";SECuk MhK:HjGUL CHOSEkG uKEUT-MIEUM<uKEUT-PIEUP<uKEUT-tOS<uKEUT-CIEUC<RIEUL-KIYEOK<RIEUL-S",
    "SjGKIYEOK<RIEUL-uKEUT<RIEUL-SSjGuKEUT<RIEUL-MIEUM<RIEUL-PIEUP<RIEUL-SSjGPIEUP<RIEUL-KAPYEOU",
    "NPIEUP<RIEUL-tOS<RIEUL-CIEUC<RIEUL-KHIEUKH<MIEUM-KIYEOK<MIEUM-uKEUT<MIEUM-tOS<PIEUP-tOS-pIE",
    "Up<PIEUP-KHIEUKH<PIEUP-HIEUH<SSjGtOS-PIEUP<IEUNG-RIEUL<IEUNG-HIEUH<SSjGCIEUC-HIEUH<SSjGpIEU",
    "p<PHIEUPH-HIEUH<HIEUH-tOS<SSjGYEORiHIEUH~~~:JAVjESwtGN PjYjGGA<CECAK<LAYh<WIGNYj;nA<I KAWI<",
    "I<II<U<PA CeEK<NGA ffT>RASWADI<E<AI<O<KA=SASAK=MURDA<GA=MURDA<NGA<CA=MURDA<JA<NYA MURDA<JA ",
    "MAvPRjA<NYA<TTA=MAvPRjA<DDA=MAvPRjA<NA MURDA<TA=MURDA<DA=MAvPRjA<NA<PA=MURDA<BA=MURDA<MA<YA",
    "<RA=AGUNG<LA<WA<SA MURDA=MAvPRjA<SA<v;tGN CECAK TELU;VOWEL tGN ThUNG=TOLkG=WULU>MELIK=SUKU>",
    "MrDUT=TliG=DIRGA MUy=PEPET;CkSkjT tGN KeET=PrGKl=CAKRA;PjGKk;fFT RerGGj;Rg.;PADA jDAP<MADYA",
    "<LUHUR<WiDU<PjGKAT<LiGSA<LUNGt<ADEG=ADEG<PISEfH;TURNoPADA PISEfH~;PjGRjGKEP;DIGIT ZeO<kE<TW",
    "O<pyE<FOUR<FIVE<tX<SEVr<Eg<NiE~~~~;PADA uRTA TUMETES<ISr-ISr:MYjMh nSHj Gv=Cv=Jv=NNA=Bv;tG",
    "N SHj SAW;MODIFIe nSHj yDUPLICAuk;nTAI LAiG NYA>FA>GA>Gv>JA>Jv>DDA>DDv>NNA;TAI LAiG DIGIT Z",
    "eO>kE>TWO>pyE>FOUR>FIVE>tX>SEVr>Eg>NiE;nTAI LAiG LLA>DA>Dv>BA>Bv~:CvM nA<I<U<E<AI<O<KA<Kv<G",
    "A<Gv<NGUE<NGA<Cv<CHv<JA<Jv<NHUE<Nv<NHJA<TA<pA<DA<Dv<NUE<NA<DDA<PA<PPA<Pv<BA<Bv<MUE<MA<BBA<Y",
    "A<RA<LA<VA<SSA<SA<v;VOWEL tGN AA=I=II=EI=U=OE=O=AI=AU=UE;CkSkjT tGN YA=RA=LA=WA~~~~~~~~~;nF",
    "il K=G=NG;CkSkjT tGN Fil NG;nFil CH=T=N=P=Y=R=L=SS;CkSkjT tGN Fil M>H~~;DIGIT ZeO<kE<TWO<py",
    "E<FOUR<FIVE<tX<SEVr<Eg<NiE~~;PUNCTUAuk SPIRl<DjDA<xUBf DjDA<TRIPf.:MYjMh nKvMu GA=CA=Cv=JA=",
    "Jv=NYA=TTA=TpA=DDA=DDv=Dv=NA=SA=v=Hv=FA;MODIFIe nKvMu yDUPLICAuk;nKvMu XA=ZA=RA;LOGOGRAM Kv",
    "Mu OAY=QN=HM;SYMBOL AITk EXCLAMAuk=kE=TWO;nAITk RA;tGN PAO Khr TkE<TAI LAiG TkE-2>TkE-5;nSH",
    "WwPlAUNG Cv>Sv:TAI VIET nLOW KO=HIGH.=LOW KHO=HIGH.=LOW KHHO=HIGH.=LOW GO=HIGH.=LOW NGO=HIG",
    "H.=LOW CO=HIGH.=LOW CHO=HIGH.=LOW SO=HIGH.=LOW NYO=HIGH.=LOW x=HIGH.=LOW TO=HIGH.=LOW pO=HI",
    "GH.=LOW NO=HIGH.=LOW BO=HIGH.=LOW PO=HIGH.=LOW PHO=HIGH.=LOW FO=HIGH.=LOW MO=HIGH.=LOW YO=H",
    "IGH.=LOW RO=HIGH.=LOW LO=HIGH.=LOW VO=HIGH.=LOW HO=HIGH.=LOW O=HIGH.<MAI KjG<VOWEL AA=I=UE=",
    "U=E=O<MAI KHIT<VOWEL IA=UEA=UA=AUE=AY=j=AM<TkwMAI EK>NUrG>pO>SkG"]⟩,
  ⟨0xAADB, [
    ":TAI VIET SYMBOL Kk=NUrG=SAM=HO HOI=KOI KOI:MEETEI MAYEK nE=O=Cv=NYA=TTA=TpA=DDA=DDv=NNA=Sv",
    "=SSA<VOWEL tGN II>UU>AAI>AU>AAU<CHEIKHj<AHjG KHUDAM<jJI<SYLLABf yPEuuk MhK<WORD.<VOWEL tGN ",
    "VIShGA<VIRAMA~~~~~~~~~~:EpIOPIC SYLLABf TpU<TpI<TpAA<TpEE<TpE<TpO~~<DDHU<DDHI<DDvA<DDHEE<DD",
    "HE<DDHO~~<DZU<DZI<DZAA<DZEE<DZE<DZO~~~~~~~~~<CCHv<CCHHU<CCHHI<CCHvA<CCHHEE<CCHHE<CCHHO~<BBA",
    "<BBU<BBI<BBAA<BBEE<BBE<BBO~:LATi d nBhRolPv=A yVeSED-SCHWA=BLACKnE=BhyD.=EcFLOURISH=fNIS F=",
    "SCRIPT GcCROSSED-TAIL=LciVeToLAZY S?xUBf MIDDf uLDE?MIDDf RiG=McCROSSED-TAIL=N.=rG.=BLACKnO",
    "?WIp STROKE=OPr.=iVeToOE=TURNoOEcSTROKE@HORIZkTl STROKE>O OPr-O@WIp STROKE=SuRRUP R;nd CAPI",
    "Tl RcRg fG;d nR WIpOUT HjDf=xUBf R=RcCROSSED-TAIL=xUBf RcCROSSED-TAIL=SCRIPT R?WIp RiG=BASE",
    "LiwESH=UcSHORT Rg fG>BhcSHORT Rg fG=UI=TURNoUI=UcfFT HOOK=CHI>WIp LOW Rg RiG@fFT SeIF=XcLO",
    "W Rg RiG?LkG fFT fG@fFT fG jD LOW Rg RiG@fFT fGcSeIF=YcSHORT Rg fG:MODIFIe ByVEciVeToByVE;n",
    "d HrG=LciVeToLAZY S?MIDDf uLDE=UcfFT HOOK:LATi d nSAKv YAT=IOuFIoE=OPr OE=UO=iVeTolPv:GyEK ",
    "nd CAPITl OMEGA:LATi d nDZ DIGRAPHcyTROFfX HOOK=TS.=TURNoRcMIDDf uLDE:MODIFIe nd TURNoW<fF",
    "T TACK<Rg.~~~~:CHeOKEwd nA=E=I=O=U=V=GA=KA=GE=GI=GO=GU=GV=v=HE=HI=HO=HU=HV=LA=f=LI=LO=LU=LV",
    "=MA=ME=MI=MO=MU=NA=HNA=NAH=NE=NI=NO=NU=NV=QUA=QUE=QUI=QUO=QUU=QUV=SA=S=SE=t=SO=SU=SV=DA=TA=",
    "DE=TE=DI=u=x=DU=DV=DLA=TLA=Tf=TLI=TLO=TLU=TLV=TSA=TSE=Tt=TSO=TSU=TSV=WA=WE=WI=WO=WU=WV=YA:M",
    "EETEI MAYEK nKOK=SAM=LAI=MIT=PA=NA=CHIL=uL=KHOU=NGOU=pOU=WAI=YjG=HUK=UN=I=PvM=AuYA=GOK=JvM=",
    "RAI=BA=JIL=DIL=GHOU=DHOU=BvM=KOK LkSUM=LAI.=MIT.=PA.=NA.=uL.=NGOU.=I.<VOWEL tGN kAP>iAP>jAP",
    ">YrAP>SOUNAP>UNAP>CHEiAP>NUNG<CHEIKHEI<LUM IYEK<APUN.~~<DIGIT ZeO=kE=TWO=pyE=FOUR=FIVE=tX=S",
    "EVr=Eg=NiE"]⟩,
  ⟨0xD7B0, [
    ":HjGUL JUNGSEkG O-YEO<O-O-I<YO-A<YO-AE<YO-EO<U-YEO<U-I-I<YU-AE<YU-O<EU-A<EU-EO<EU-E<EU-O<I-",
    "YA-O<I-YAE<I-YEO<I-YE<I-O-I<I-YO<I-YU<I-I<hAEA-A<hAEA-E~~~~;JkGSEkG NIEUN-RIEUL<NIEUN-CHIEU",
    "CH<SSjGuKEUT<SSjGuKEUT-PIEUP<uKEUT-PIEUP<uKEUT-tOS<uKEUT-tOS-KIYEOK<uKEUT-CIEUC<uKEUT-CHIEU",
    "CH<uKEUT-pIEUp<RIEUL-SSjGKIYEOK<RIEUL-KIYEOK-HIEUH<SSjGRIEUL-KHIEUKH<RIEUL-MIEUM-HIEUH<RIEU",
    "L-PIEUP-uKEUT<RIEUL-PIEUP-PHIEUPH<RIEUL-YEtEUNG<RIEUL-YEORiHIEUH-HIEUH<KAPYEOUNRIEUL<MIEUM-",
    "NIEUN<MIEUM-SSjGNIEUN<SSjGMIEUM<MIEUM-PIEUP-tOS<MIEUM-CIEUC<PIEUP-uKEUT<PIEUP-RIEUL-PHIEUPH",
    "<PIEUP-MIEUM<SSjGPIEUP<PIEUP-tOS-uKEUT<PIEUP-CIEUC<PIEUP-CHIEUCH<tOS-MIEUM<tOS-KAPYEOUNPIEU",
    "P<SSjGtOS-KIYEOK<SSjGtOS-uKEUT<tOS-PjtOS<tOS-CIEUC<tOS-CHIEUCH<tOS-pIEUp<tOS-HIEUH<PjtOS-PI",
    "EUP<PjtOS-KAPYEOUNPIEUP<YEtEUNG-MIEUM<YEtEUNG-HIEUH<CIEUC-PIEUP<CIEUC-SSjGPIEUP<SSjGCIEUC<P",
    "HIEUPH-tOS<PHIEUPH-pIEUp"]⟩,
  ⟨0xFB00, [
    ":LATi d LIGATURwFF=FI=FL=FFI=FFL=LkG S T=ST"]⟩,
  ⟨0xFB13, [
    ":hMrIj d LIGATURwMr NOW>ECH>iI=VEW NOW=Mr XEH~~~~~:HEByW nYODcHIRIQ;POiT JUDEO-SPjISH VhIKA",
    ";LIGATURwYIDDISH YOD YOD PATAH;nlTeNAuVwAYi<WIDwAfF=DAfT=HE=KAF=LAMED=Fil MEM=ySH=TAV<lTeNA",
    "uVwPLUS tGN<SHicSHi xT>Si.>DAGESH jD SHi xT@Si.<AfFcPATAH>QAMATS>MAPIQ<BETcDAGESH<GIMEL.<DA",
    "fT.<HEcMAPIQ<VAVcDAGESH<ZAYi.~<TET.<YOD.<Fil KAFcDAGESH<KAFcDAGESH<LAMED.~<MEM.~<NUN.<SAMEK",
    "H.~<Fil PEcDAGESH<PEcDAGESH~<TSADI.<QOF.<ySH.<SHi.<TAV.<VAVcHOLAM<BETcRAFE<KAF.<PE.;LIGATUR",
    "wAfF LAMED:hABIC nAfF WASLA ISOLAToFORM>Fil.<BEEH ISOLAToFORM=Fil.=iIul.=MEDIl.<PEH ISOLATE",
    "D.=Fil.=iIul.=MEDIl.<BEHEH ISOLATED.=Fil.=iIul.=MEDIl.<TTEHEH ISOLATED.=Fil.=iIul.=MEDIl.<T",
    "EHEH ISOLATED.=Fil.=iIul.=MEDIl.<TTEH ISOLATED.=Fil.=iIul.=MEDIl.<VEH ISOLATED.=Fil.=iIul.=",
    "MEDIl.<PEHEH ISOLATED.=Fil.=iIul.=MEDIl.<DYEH ISOLATED.=Fil.=iIul.=MEDIl.<NYEH ISOLATED.=Fi",
    "l.=iIul.=MEDIl.<TCHEH ISOLATED.=Fil.=iIul.=MEDIl.<TCHEHEH ISOLATED.=Fil.=iIul.=MEDIl.<DDAH",
    "l ISOLATED.=Fil.<DAHl ISOLATED.=Fil.<DUL ISOLATED.=Fil.<DDl ISOLATED.=Fil.<JEH ISOLATED.=Fi",
    "l.<RyH ISOLATED.=Fil.<KEHEH ISOLATED.=Fil.=iIul.=MEDIl.<GAF ISOLATED.=Fil.=iIul.=MEDIl.<GUE",
    "H ISOLATED.=Fil.=iIul.=MEDIl.<NGOEH ISOLATED.=Fil.=iIul.=MEDIl.<NOk GHUNNA ISOLAToFORM>Fil.",
    "<RNOk ISOLAToFORM=Fil.=iIul.=MEDIl.<HEHcYEHq ISOLAToFORM@Fil.=GOl ISOLAToFORM>Fil.>iIul.>ME",
    "DIl.=xACvSHMEwISOLATED.>Fil.>iIul.>MEDIl.<YEH BhywISOLATED.>Fil.>WIp vMZAq ISOLAToFORM@ABOV",
    "wFil.;SYMBOL xTq=BELOW<TWO xTSq>BELOW<pywxTSq>BELOW>POiTiG xWNsq@BELOW<FOUR xTSq>BELOW<xUB",
    "f VeuCl Bh BELOW<TWO xTS VeuClLYq?BELOW<RiG<d TAHq>BELOW<WASLAq"]⟩,
  ⟨0xFBD3, [
    ":hABIC nNG ISOLAToFORM=Fil.=iIul.=MEDIl.<U ISOLATED.=Fil.<OwISOLATED.=Fil.<YU ISOLATED.=Fil",
    ".<UcvMZAq ISOLAToFORM<VwISOLAToFORM=Fil.<KIRGHIZ OwISOLAToFORM>Fil.=YU ISOLATED.>Fil.<wISOL",
    "AToFORM=Fil.=iIul.=MEDIl.<UIGHUR KAZAKH KIRGHIZ AfF MAKSURA iIul FORM@MAKSURA MEDIl.;LIGATU",
    "RwYEHcvMZAqcAfF ISOLAToFORM@WIp AfF Fil.@WIp AwISOLATED.@WIp AwFil.@WIp WAW ISOLATED.@WIp W",
    "AW Fil.@WIp U ISOLATED.@WIp U Fil.@WIp OwISOLATED.@WIp OwFil.@WIp YU ISOLATED.@WIp YU Fil.@",
    "WIp wISOLATED.@WIp wFil.@WIp wiIul.<UIGHUR KIRGHIZ YEHcvMZAqcAfF MAKSURA ISOLAToFORM@vMZAqc",
    "AfF MAKSURA Fil.@vMZAqcAfF MAKSURA iIul.;nFht YEH ISOLAToFORM>Fil.>iIul.>MEDIl.;LIGATURwYEH",
    "cvMZAqcJEEM ISOLAToFORM@WIp vH.@WIp MEEM.@WIp AfF MAKSURA ISOLAToFORM@WIp YEH ISOLAToFORM<B",
    "EHcJEEM ISOLAToFORM>vH.>KvH.>MEEM.>AfF MAKSURA ISOLAToFORM>YEH ISOLAToFORM<TEHcJEEM.>vH.>Kv",
    "H.>MEEM.>AfF MAKSURA ISOLAToFORM>YEH ISOLAToFORM<pEHcJEEM.>MEEM.>AfF MAKSURA ISOLAToFORM>YE",
    "H ISOLAToFORM<JEEMcvH.>MEEM.<vHcJEEM.>MEEM.<KvHcJEEM.>vH.>MEEM.<SErcJEEM.>vH.>KvH.>MEEM.<SA",
    "DcvH.>MEEM.<DADcJEEM.>vH.>KvH.>MEEM.<TAHcvH.>MEEM.<ZAH.<AicJEEM.>MEEM.<GvicJEEM.>MEEM.<FEHc",
    "JEEM.>vH.>KvH.>MEEM.>AfF MAKSURA ISOLAToFORM>YEH ISOLAToFORM<QAFcvH.>MEEM.>AfF MAKSURA ISOL",
    "AToFORM>YEH ISOLAToFORM<KAFcAfF.>JEEM.>vH.>KvH.>LAM.>MEEM.>AfF MAKSURA ISOLAToFORM>YEH ISOL",
    "AToFORM<LAMcJEEM.>vH.>KvH.>MEEM.>AfF MAKSURA ISOLAToFORM>YEH ISOLAToFORM<MEEMcJEEM.>vH.>KvH",
    ".>MEEM.>AfF MAKSURA ISOLAToFORM>YEH ISOLAToFORM<NOkcJEEM.>vH.>KvH.>MEEM.>AfF MAKSURA ISOLAT",
    "oFORM>YEH ISOLAToFORM<HEHcJEEM.>MEEM.>AfF MAKSURA ISOLAToFORM>YEH ISOLAToFORM<YEHcJEEM.>vH.",
    ">KvH.>MEEM.>AfF MAKSURA ISOLAToFORM>YEH ISOLAToFORM<plcSUPeSCRIPT AfF ISOLAToFORM<yH.<AfF M",
    "AKSURAcSUPeSCRIPT AfF ISOLAToFORM<SvDDAcDAMMATj ISOLAToFORM>KASRATj.>FApA.>DAMMA.>KASRA.>SU",
    "PeSCRIPT AfF ISOLAToFORM<YEHcvMZAqcyH Fil FORM@WIp ZAi.@WIp MEEM.@WIp NOk.@WIp AfF MAKSURA ",
    "Fil FORM@WIp YEH Fil FORM<BEHcyH Fil FORM>ZAi.>MEEM.>NOk.>AfF MAKSURA Fil FORM>YEH Fil FORM",
    "<TEHcyH.>ZAi.>MEEM.>NOk.>AfF MAKSURA Fil FORM>YEH Fil FORM<pEHcyH.>ZAi.>MEEM.>NOk.>AfF MAKS",
    "URA Fil FORM>YEH Fil FORM<FEHcAfF MAKSURA Fil FORM>YEH Fil FORM<QAFcAfF MAKSURA Fil FORM>YE",
    "H Fil FORM<KAFcAfF.>LAM.>MEEM.>AfF MAKSURA Fil FORM>YEH Fil FORM<LAMcMEEM.>AfF MAKSURA Fil ",
    "FORM>YEH Fil FORM<MEEMcAfF.>MEEM.<NOkcyH.>ZAi.>MEEM.>NOk.>AfF MAKSURA Fil FORM>YEH Fil FORM",
    "<AfF MAKSURAcSUPeSCRIPT AfF Fil FORM<YEHcyH Fil FORM>ZAi.>MEEM.>NOk.>AfF MAKSURA Fil FORM>Y",
    "EH Fil FORM>vMZAqcJEEM iIul FORM@WIp vH.@WIp KvH.@WIp MEEM.@WIp HEH.<BEHcJEEM iIul FORM>vH.",
    ">KvH.>MEEM.>HEH.<TEHcJEEM.>vH.>KvH.>MEEM.>HEH.<pEHcMEEM.<JEEMcvH.>MEEM.<vHcJEEM.>MEEM.<KvHc",
    "JEEM.>MEEM.<SErcJEEM.>vH.>KvH.>MEEM.<SADcvH.>KvH.>MEEM.<DADcJEEM.>vH.>KvH.>MEEM.<TAHcvH.<ZA",
    "HcMEEM.<AicJEEM.>MEEM.<GvicJEEM.>MEEM.<FEHcJEEM.>vH.>KvH.>MEEM.<QAFcvH.>MEEM.<KAFcJEEM.>vH.",
    ">KvH.>LAM.>MEEM.<LAMcJEEM.>vH.>KvH.>MEEM.>HEH.<MEEMcJEEM.>vH.>KvH.>MEEM.<NOkcJEEM.>vH.>KvH.",
    ">MEEM.>HEH.<HEHcJEEM.>MEEM.>SUPeSCRIPT AfF iIul FORM<YEHcJEEM iIul FORM>vH.>KvH.>MEEM.>HEH.",
    ">vMZAqcMEEM MEDIl FORM@WIp HEH.<BEHcMEEM MEDIl FORM>HEH.<TEHcMEEM.>HEH.<pEHcMEEM.>HEH.<SErc",
    "MEEM.>HEH.<SHErcMEEM.>HEH.<KAFcLAM.>MEEM.<LAM.<NOk.>HEH.<YEHcMEEM.>HEH.<SvDDAcFApA.>DAMMA.>",
    "KASRA.<TAHcAfF MAKSURA ISOLAToFORM>YEH ISOLAToFORM<AicAfF MAKSURA ISOLAToFORM>YEH ISOLAToFO",
    "RM<GvicAfF MAKSURA ISOLAToFORM>YEH ISOLAToFORM<SErcAfF MAKSURA ISOLAToFORM>YEH ISOLAToFORM<",
    "SHErcAfF MAKSURA ISOLAToFORM>YEH ISOLAToFORM<vHcAfF MAKSURA ISOLAToFORM>YEH ISOLAToFORM<JEE",
    "McAfF MAKSURA ISOLAToFORM>YEH ISOLAToFORM<KvHcAfF MAKSURA ISOLAToFORM>YEH ISOLAToFORM<SADcA",
    "fF MAKSURA ISOLAToFORM>YEH ISOLAToFORM<DADcAfF MAKSURA ISOLAToFORM>YEH ISOLAToFORM<SHErcJEE",
    "M.>vH.>KvH.>MEEM.>yH.<SEr.<SAD.<DAD.<TAHcAfF MAKSURA Fil FORM>YEH Fil FORM<AicAfF MAKSURA F",
    "il FORM>YEH Fil FORM<GvicAfF MAKSURA Fil FORM>YEH Fil FORM<SErcAfF MAKSURA Fil FORM>YEH Fi",
    "l FORM<SHErcAfF MAKSURA Fil FORM>YEH Fil FORM<vHcAfF MAKSURA Fil FORM>YEH Fil FORM<JEEMcAf",
    "F MAKSURA Fil FORM>YEH Fil FORM<KvHcAfF MAKSURA Fil FORM>YEH Fil FORM<SADcAfF MAKSURA Fil F",
    "ORM>YEH Fil FORM<DADcAfF MAKSURA Fil FORM>YEH Fil FORM<SHErcJEEM.>vH.>KvH.>MEEM.>yH.<SEr.<S",
    "AD.<DAD.<SHErcJEEM iIul.>vH.>KvH.>MEEM.<SErcHEH.<SHEr.<TAHcMEEM.<SErcJEEM MEDIl.>vH.>KvH.<S",
    "HErcJEEM.>vH.>KvH.<TAHcMEEM.<ZAH.<AfFcFApATj Fil.?ISOLATED.:ORNATwfFT PhrpEtS;Rg.:hABIC LIG",
    "ATURwRAHIMAHU lLAAH<RADI lLAAHU jH>jvA>jHUM>jHUMAA>jHUNNA<SlLlLAAHU lAYHI WA-AlIH<lAYHI AS-",
    "SlAAM<lAYHIM.<lAYHIMAA.<lAYHI AS-SlAATU WAS-SlAAM<QUDDISA tRRAH<SlLlLAHU lAYHI WAAlIHEwWA-S",
    "lLAM<lAYvA AS-SlAAM<TABAhAKA WA-TAAlAA<RAHIMAHUM lLAAH<TEHcJEEMcMEEM iIul FORM>vHcJEEM Fil.",
    "@JEEM iIul.@MEEM.>KvH.>MEEMcJEEM.@vH.@KvH.<JEEMcMEEMcvH Fil.@vH iIul.<vHcMEEMcYEH Fil.@AfF ",
    "MAKSURA Fil FORM<SErcvHcJEEM iIul FORM>JEEMcvH.@AfF MAKSURA Fil FORM>MEEMcvH Fil FORM@vH iI",
    "ul.@JEEM.@MEEM Fil.@MEEM iIul.<SADcvHcvH Fil.@vH iIul.>MEEMcMEEM Fil.<SHErcvH.@MEEM iIul.>J",
    "EEMcYEH Fil.>MEEMcKvH.@KvH iIul.@MEEM Fil.@MEEM iIul.<DADcvHcAfF MAKSURA Fil FORM>KvHcMEEM ",
    "Fil FORM@MEEM iIul.<TAHcMEEMcvH Fil.@vH iIul.@MEEM.@YEH Fil.<AicJEEMcMEEM.>MEEM.@MEEM iIul.",
    "@AfF MAKSURA Fil FORM<GvicMEEMcMEEM Fil FORM@YEH.@AfF MAKSURA Fil FORM<FEHcKvHcMEEM Fil FOR",
    "M@MEEM iIul.<QAFcMEEMcvH Fil.@MEEM.<LAMcvH.@YEH.@AfF MAKSURA Fil FORM>JEEMcJEEM iIul FORM@J",
    "EEM Fil.>KvHcMEEM.@MEEM iIul.>MEEMcvH Fil.@vH iIul.<MEEMcvHcJEEM.@MEEM.@YEH Fil.>JEEMcvH iI",
    "ul.@MEEM.>KvHcJEEM.@MEEM.~~>JEEMcKvH.<HEHcMEEMcJEEM.@MEEM.<NOkcvH.@AfF MAKSURA Fil FORM>JEE",
    "McMEEM Fil FORM@MEEM iIul.@AfF MAKSURA Fil FORM>MEEMcYEH Fil FORM@AfF MAKSURA Fil FORM<YEHc",
    "MEEMcMEEM Fil FORM@MEEM iIul.<BEHcKvHcYEH Fil.<TEHcJEEM.@AfF MAKSURA Fil FORM>KvHcYEH Fil F",
    "ORM@AfF MAKSURA Fil FORM>MEEMcYEH Fil FORM@AfF MAKSURA Fil FORM<JEEMcMEEMcYEH Fil FORM>vHcA",
    "fF MAKSURA Fil FORM>MEEM.<SErcKvH.<SADcvHcYEH Fil FORM<SHEr.<DAD.<LAMcJEEM.>MEEM.<YEHcvH.>J",
    "EEM.>MEEM.<MEEM.<QAF.<NOkcvH.<QAFcMEEMcvH iIul.<LAMcvHcMEEM.<AicMEEMcYEH Fil.<KAF.<NOkcJEEM",
    "cvH iIul.<MEEMcKvHcYEH Fil.<LAMcJEEMcMEEM iIul.<KAFcMEEMcMEEM Fil.<LAMcJEEM.<NOkcJEEMcvH.<J",
    "EEMcvHcYEH.<vHcJEEM.<MEEM.<FEHcMEEM.<BEHcvH.<KAFcMEEMcMEEM iIul.<AicJEEM.<SADcMEEM.<SErcKvH",
    "cYEH Fil.<NOkcJEEM.~~~~~~~<SlAAMUHU lAYNAA"]⟩,
  ⟨0xFDF0, [
    ":hABIC LIGATURwSlLA USoAS KORjIC STOP tGN ISOLAToFORM<QlA.<lLAH ISOLAToFORM<AKBh.<MOvMMAD.<",
    "SlAM.<RASOUL.<lAYHE.<WASlLAM.<SlLA.<SlLlLAHOU lAYHwWASlLAM<JlLAJllOUHOU:RIl tGN:hABIC LIGAT",
    "URwBISMILLAH h-RAHMj h-RAHEEM<SUBvjAHU WA TAAlAA<AZZA WA JlL:VhIAuk m1;m2;m3;m4;m5;m6;m7;m8",
    ";m9;m10;m11;m12;m13;m14;m15;m16:PySrTAuk FORM FOR VeuCl COMMA>IDEOGRAPHIC COMMA?FULL STOP>C",
    "OLk>SEMICOLk>EXCLAMAuk MhK>QUESuk.>fFT WHITwfNuCULh BRACKET>Rg WHITwfNuCULh BRAKCET>HORIZkT",
    "l ELLIPtS~~~~~~:COMBiiG LIGATURwfFT HlF<Rg.;xUBf uLDwfFT HlF=Rg.;MACRk fFT HlF<Rg.;CkJOiiG ",
    "MACRk;LIGATURwfFT HlF BELOW<Rg.;uLDwfFT.<Rg.;MACRk fFT.<Rg.;CkJOiiG MACRk BELOW;CYRILLIC uT",
    "LO fFT HlF=Rg.:PySrTAuk FORM FOR VeuCl TWO xT fADe>EM DASH>r.>LOW LiE>WAVY LOW LiE>fFT Phrp",
    "EtS>Rg.>fFT CURLY BRACKET>Rg.>fFT TORTOISwSHELL BRACKET>Rg.>fFT BLACK fNuCULh.>Rg.>fFT xUB",
    "f jGf.>Rg.>fFT jGf BRACKET>Rg.>fFT CORNe.>Rg.>fFT WHITwCORNe BRACKET>Rg.:SESAMwxT:WHITwSESA",
    "MwxT:PySrTAuk FORM FOR VeuCl fFT SQUhwBRACKET>Rg.:DASHoOVeLiE:CrTyLiE.:WAVY.:xUBf WAVY OVeL",
    "iE:DASHoLOW LiE:CrTyLiE.:WAVY.:d COMMA;IDEOGRAPHIC COMMA;FULL STOP~;SEMICOLk;COLk;QUESuk Mh",
    "K;EXCLAMAuk.;EM DASH;fFT PhrpEtS;Rg.;fFT CURLY BRACKET;Rg.;fFT TORTOISwSHELL BRACKET;Rg.;NU",
    "MBe tGN;AMPeSjD;ASTeISK;PLUS tGN;HYPHr-MiUS;fSS-pj tGN;GyATe-pj.;EQUlS.~;yVeSwSOLIDUS;xLLh ",
    "tGN;PeCrT.;COMMeCIl AT~~~~:hABIC FApATj ISOLAToFORM;TATWEELcFApATjq;DAMMATj ISOLAToFORM;TAI",
    "L FRAGMrT;KASRATj ISOLAToFORM~;FApA.<MEDIl.;DAMMA ISOLATED.<MEDIl.;KASRA ISOLATED.<MEDIl.;S",
    "vDDA ISOLATED.<MEDIl.;SUKUN ISOLATED.<MEDIl.;nvMZA ISOLAToFORM<AfFcMADDAq ISOLAToFORM@Fil.>",
    "vMZAq ISOLATED.@Fil.<WAWcvMZAq ISOLATED.@Fil.<AfFcvMZA BELOW ISOLATED.@Fil.<YEHcvMZAq ISOLA",
    "TED.@Fil.@iIul.@MEDIl.<AfF ISOLAToFORM=Fil.<BEH ISOLATED.=Fil.=iIul.=MEDIl.<TEH MhBUTA ISOL",
    "AToFORM>Fil.=ISOLAToFORM=Fil.=iIul.=MEDIl.<pEH ISOLATED.=Fil.=iIul.=MEDIl.<JEEM ISOLATED.=F",
    "il.=iIul.=MEDIl.<vH ISOLATED.=Fil.=iIul.=MEDIl.<KvH ISOLATED.=Fil.=iIul.=MEDIl.<Dl ISOLATED",
    ".=Fil.<pl ISOLATED.=Fil.<yH ISOLATED.=Fil.<ZAi ISOLATED.=Fil.<SEr ISOLATED.=Fil.=iIul.=MEDI",
    "l.<SHEr ISOLATED.=Fil.=iIul.=MEDIl.<SAD ISOLATED.=Fil.=iIul.=MEDIl.<DAD ISOLATED.=Fil.=iIul",
    ".=MEDIl.<TAH ISOLATED.=Fil.=iIul.=MEDIl.<ZAH ISOLATED.=Fil.=iIul.=MEDIl.<Ai ISOLATED.=Fil.=",
    "iIul.=MEDIl.<Gvi ISOLATED.=Fil.=iIul.=MEDIl.<FEH ISOLATED.=Fil.=iIul.=MEDIl.<QAF ISOLATED.=",
    "Fil.=iIul.=MEDIl.<KAF ISOLATED.=Fil.=iIul.=MEDIl.<LAM ISOLATED.=Fil.=iIul.=MEDIl.<MEEM ISOL",
    "ATED.=Fil.=iIul.=MEDIl.<NOk ISOLATED.=Fil.=iIul.=MEDIl.<HEH ISOLATED.=Fil.=iIul.=MEDIl.<WA",
    "W ISOLATED.=Fil.<AfF MAKSURA ISOLAToFORM>Fil.<YEH ISOLAToFORM=Fil.=iIul.=MEDIl.;LIGATURwLAM",
    "cAfFcMADDAq ISOLAToFORM@MADDAq Fil.@vMZAq ISOLATED.@vMZAq Fil.@vMZA BELOW ISOLATED.@vMZA BE",
    "LOW Fil.?ISOLAToFORM?Fil.~~:ZeO WIDp NO-ByAK SPACE~:FULLWIDp EXCLAMAuk MhK;QUOTAuk.;NUMBe t",
    "GN;xLLh.;PeCrT.;AMPeSjD;APOSTROPHE;fFT PhrpEtS;Rg.;ASTeISK;PLUS tGN;COMMA;HYPHr-MiUS;FULL S",
    "TOP;SOLIDUS;DIGIT ZeO<kE<TWO<pyE<FOUR<FIVE<tX<SEVr<Eg<NiE;COLk;SEMICOLk;fSS-pj tGN;EQUlS.;G",
    "yATe-pj.;QUESuk MhK;COMMeCIl AT;LATi zA>B>C>D>E>F>G>H>I>J>K>L>M>N>O>P>Q>R>S>T>U>V>W>X>Y>Z;f",
    "FT SQUhwBRACKET;yVeSwSOLIDUS;Rg SQUhwBRACKET;CIRCUMFfX ACCrT;LOW LiE;GRAVwACCrT;LATi d nA>B",
    ">C>D>E>F>G>H>I>J>K>L>M>N>O>P>Q>R>S>T>U>V>W>X>Y>Z;fFT CURLY BRACKET;VeuCl LiE;Rg CURLY BRACK",
    "ET;uLDE;fFT WHITwPhrpEtS;Rg.:HlFWIDp IDEOGRAPHIC FULL STOP;fFT CORNe BRACKET;Rg.;IDEOGRAPHI",
    "C COMMA;KATAKjA MIDDf xT<nWO=d A>I>U>E>O>YA>YU>YO>TU;KATAKjA-HIRAGjA PROLkGoSOUND MhK;KATAK",
    "jA nA=I=U=E=O=KA=KI=KU=KE=KO=SA=t=SU=SE=SO=TA=u=TU=TE=TO=NA=NI=NU=NE=NO=v=HI=HU=HE=HO=MA=MI",
    "=MU=ME=MO=YA=YU=YO=RA=RI=RU=y=RO=WA=N<VOICoSOUND MhK<SEMI-VOICED.;HjGUL FILLe<nKIYEOK=SSjGK",
    "IYEOK=KIYEOK-tOS=NIEUN=NIEUN-CIEUC=NIEUN-HIEUH=uKEUT=SSjGuKEUT=RIEUL=RIEUL-KIYEOK=RIEUL-MIE",
    "UM=RIEUL-PIEUP=RIEUL-tOS=RIEUL-pIEUp=RIEUL-PHIEUPH=RIEUL-HIEUH=MIEUM=PIEUP=SSjGPIEUP=PIEUP-",
    "tOS=tOS=SSjGtOS=IEUNG=CIEUC=SSjGCIEUC=CHIEUCH=KHIEUKH=pIEUp=PHIEUPH=HIEUH~~~=A=AE=YA=YAE=EO",
    "=E~~=YEO=YE=O=WA=WAE=OE~~=YO=U=WEO=WE=WI=YU~~=EU=YI=I~~~:FULLWIDp CrT tGN;POUND.;NOT.;MACRk",
    ";BROKr Bh;Yr tGN;Wk.~:HlFWIDp FORMS Lg VeuCl;fFTs hROW;UPs.;Rgs.;xWNs.;BLACK SQUhE;WHITwCIR",
    "Cf~~~~~~~~~~:iTeLiEh jNOTAuk jCHOR<SEPhATOR<TeMiATOR:OBJECT yPLACEMrT CHhACTe:yPLACEMrT CHh",
    "ACTe"]⟩]

end FieldSchema.Text
