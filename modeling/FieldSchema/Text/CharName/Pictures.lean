import FieldSchema.Text.CharName.Listing

/-!
# Names of pictorial characters

The names of the characters from U+16000 on: late additions to older scripts, notations, styled
letters, games and pictures.

* `CharName.pictures`: the listings.
-/

namespace FieldSchema.Text

/-- The listings, in the order of the characters. -/
def CharName.pictures : List NameListing := [
  ⟨0x16800, [
    ":BAMUM nPvSE-A NGKUwMFk=GBIEwFk=Pk MFk PIPAEMGBIEE?PIPAEMBA=NAA MFk=SHUrSHUET=uTA MFk=NZA.=",
    "SHiDA PA NJI=Pk PA NJI PIPAEMGBIEE@PIPAEMBA=MAEMBGBIEE=TU MAEMBA=NGjGU=MAEMVEUX=MjSUAE=MVEU",
    "ArGAM=SEUNYAM=NTOQPr=KEUKEUTNDA=NKiDI=SUU=NGKUrZEUM=LAPAQ=fT KUT=NTAP MFAA=MAEKEUP=PASvE=GH",
    "EUAeAE=PAMSvE=Mk NGGEUAET=NZUN MEUT=U YUQ NAE=GHEUAEGHEUAE=NTAP NTAA=tSA=MGBASA=MEUNJOMNDEU",
    "Q=MOOMPUQ=KAFA=PA feAEWA=NDA.=PET=MAEMKPr=NIKA=PUP=TUAEP=LUAEP=SkJAM=TEUTEUWr=MArYI=KET=NDA",
    "jGGEUAET=KUOQ=MOOMEUT=SHUM=LOMMAE=FIRI=ROM=KPOQ=SOQ=MAP PIEET=SHIRAE=NTAP=SHOQ NSHUT YUM=NY",
    "IT MkGKEUAEQ=PAhAE=NKAhAE=UNKNOWN=NGGr=MAEt=NJAM=MBjYI=NYET=TEUAr=SOT=PAAM=NSHIEE=MAEM=NYI=",
    "KAQ=NSv=VEE=LU=Nr=NAQ=MBAQ<PvSE-B NSHUET=TU MAEMGBIEE=tEE=SET TU=LOM NTEUM=MBA MAEfE=KIEEM=",
    "YEURAE=MBAhAE=KAM=PEESHI=YAFU feAEWA=LAM NSHUT NYAM=NuEwSHEUOQ=NDU NJAA=GHEUGHEUAEM=PIT=TU ",
    "NtEE=SHET NJAQ=SHEUAEQTU=MFk TEUAEQ=MBIT MBAAKET=NYI NTEUM=KEUPUQ=GHEUGHr=KEUYEUX=LAjAE=PhU",
    "M=VEUM=NGKiDI MVOP=NGGEU MBU=WUAET=SAKEUAE=TAAM=MEUQ=NGGUOQ>LhGE=MFIYAQ=SUE=MBEURI=MkuEr=NY",
    "AEMAE=PUNGAAM=MEUT NGGEET=FEUX=MBUOQ=FEE=KEUAEM=MA NJEUArA>NJUQA=fT=NGGAAM=NSr=MA=KIQ=NGOM<",
    "PvSE-C NGKUwMAEMBA=NZA=YUM=WjGKUOQ=NGGr=NDEUAeEE=NGKAQ=GHhAE=MBEEKEET=GBAYI=NYIR MKPhAQ MEU",
    "N=NTU MBIT=MBEUM=PIRIEr=NxMBU=MBAA CABBAGE-TyE=KEUSHEUAEP=GvP=KEUKAQ=YU MUOMAE=NZEUM=MBUE=N",
    "SEUAr=MBIT=YEUQ=KPhAQ=KAA=SEUX=NDIDA=TAASvE=NJUEQ=uTA YUE=SUAET=NGGUAr NYAM=VEUX=NjSjAQ=MA ",
    "KEUAeI=NTAA=NGGUk=LAP=MBIRIEr=MGBASAQ=NTEUNGBA=TEUTEUX=NGGUM=FUE=NDEUT=NSA=NSvQ=BUNG=VEUAEP",
    "r=MBeAE=RU=NJAEM=LAM=uTUAEP=NSUOT NGOM=NJEEEE=KET=NGGU=MAEt=MBUAEM=LU=KUT=NJAM=NGOM=WUP=NGG",
    "UEET=NSOM=NTr=KUOP NKAhAE=NSUN=NDAM=MA NtEE=YAA=NDAP=SHUEQ=SETFk=MBI=MAEMBA=MBjYI=KEUSEUX=M",
    "BEUX=KEUM=MBAA PICKET=YUWOQ=NJEUX=MIEE=MUAE=SHIQ=Kr LAW>FAuGUE=NGAQ=NAQ=LIQ=Pi=Pr=TET<PvSE-",
    "D MBUO=WAP=NJI=MFk=NJIEE=LIEE=NJEUT=NSHEE=NGGAAMAE=NYAM=WUAr=NGKUN=SHEE=NGKAP=KEUAETMEUN=TE",
    "UT=SHEUAE=NJAP=SUE=KET=YAEMMAE=KUOM=SAP=MFEUT=NDEUX=MAfeI=MEUT=SEUAEQ=Yr=NJEUAEM=KEUOT MBUA",
    "E=NGKEURI=TU=GvA=NGKYEE=FEUFEUAET=NDEE=MGBOFUM=fUAEP=NDk=MkI=MGBEUN=PUUT=MGBIEE=MFO=LUM=NtE",
    "EP=MBAA=KWAET=NYET=TEUAr=SOT=YUWOQ=KEUM=RAEM=TEEEE=NGKEUAEQ=MFEUAE=NtEET=KEUP=PIP=PEUTAE=NY",
    "UE=fT=NGGAAM=MFIEE=NGGWAr=YUOM=PAP=YUOP=NDAM=NTEUM=SUAE=KUN=NGGEUX=NGKIEE=TUOT=MEUN=KUQ=NSU",
    "M=TEUN=MArJET=NGGAP=fUM=NGGUOM=NSHUT=NJUEQ=GHEUAE=KU=Rr OLD=TAE=TOQ=NYI=RII=fEEE=MEEEE=M=SU",
    "U=MU=SHII=SHEUX=KYEE=NU=SHU=NTEE=PEE=NI=SHOQ=PUQ=MVOP=LOQ=Rr MUCH=u=NTUU=MBAA SEVr=SAQ=FAA<",
    "PvSE-wNDAP=TOk=MBEUM=LAP=VOM=LOk=PAA=SOM=RAQ=NSHUOP=NDUN=PUAE=TAM=NGKA=KPEUX=WUO=SEE=NGGEUA",
    "ET=PAAM=TOO=KUOP=LOM=NSHIEE=NGOP=MAEM=NGKEUX=NGOQ=NSHUE=RIMGBA=NJEUX=PEEM=SAA=NGGURAE=MGBA=",
    "GHEUX=NGKEUAEM=NJAEMLI=MAP=LOOT=NGGEEEE=NDIQ=TAr NTEUM=SET=PUM=NDAA SOFTNESS=NGGUAESvwNYAM=",
    "YIEE=GHEUN=TUAE=YEUAE=PO=TUMAE=KEUAE=SUAr=TEUAEQ=VEUAE=WEUX=LAAM=PU=TAAQ=GvAMAE=NGEUyUT=SHE",
    "UAEQ=MGBr=MBEE=NZAQ=NKOM=GBET=TUM=KUET=YAP=NYI CfAVe=YIT=MFEUQ=NDIAQ=PIEEQ=YUEQ=fUAEM=FUE=G",
    "BEUX=NGKUP=KET=MAE=NGKAAMI=GHET=FA=NTUM=PEUT=YEUM=NGGEUAE=NYI BETWEr=NZUQ=POk=MIEE=FUET=NAE",
    "=MUAE=GHEUAE=FU I=MVI=PUAQ=NGKUM=KUT=PIET=NTAP=YEUAET=NGGUP=PA PEOPf=FU ClL=FOM=NJEE=A=TOQ=",
    "O=I=LAQ=PA PLURl=TAA=TAQ=NDAA MY HOUSE=SHIQ=YEUX=NGUAE=YUAr=YOQ SWIMMiG>COVe=YUQ=YUN=KEUX=P",
    "EUX=NJEwEPOCH=PUE=WUE=FEE=VEE=LU=MI=yUX=RAE=NGUAET=NGA=SHO=SHOQ=FU yMEDY=NA=PI=LOQ=KO=Mr=MA",
    "=MAQ=TEU=KI=Mk=Tr=FAQ=GHOM<PvSE-F KA=U=KU=EE=yE=TAE=NYI=LA=RII=RIEE=MEEEE=TAA=NDAA=NJAEM=M=",
    "SUU=SHII=t=SEUX=KYEE=KET=NUAE=NU=NJUAE=YOQ=SHU=YA=NSv=PEUX=NTEE=WUE=PEE=RU=NI=yUX=Kr=NGKWAr",
    "=NGGA=SHO=PUAE=FOM=WA=LI=LOQ=KO=MBr=Rr=MA=MO=MBAA=TET=KPA=SAMBA=VUEQ~~~~~~~:MRO nTA<NGI<YO<",
    "MIM<BA<DA<A<PHI<KvI<vO<DAI<CHU<KEAAE<OL<MAEM<Ni<PA<OO<O<RO<SHI<pEA<EA<WA<E<KO<Lj<LA<vI<RI<T",
    "EK~;DIGIT ZeO<kE<TWO<pyE<FOUR<FIVE<tX<SEVr<Eg<NiE~~~~;DjDA;xUBf DjDA:TjGSA nOZ<OC<OQ<OX<AZ<",
    "AC<AQ<AX<VZ<VC<VQ<VX<EZ<EC<EQ<EX<IZ<IC<IQ<IX<UZ<UC<UQ<UX<AWZ<AWC<AWQ<AWX<UIZ<UIC<UIQ<UIX<Fi",
    "l NG<LkG UEX<SHORT UEZ=AWX<UEC<UEZ<UEQ<UEX<UIUZ<UIUC<UIUQ<UIUX<MZ<MC<MQ<MX<KA<Kv<GA<NGA<SA<",
    "YA<WA<PA<NYA<Pv<BA<MA<NA<v<LA<HTA<TA<DA<RA<Nv<Sv<CA<TSA<Gv<HTTA<pA<XA<FA<Dv<Cv<ZA~;DIGIT Ze",
    "O<kE<TWO<pyE<FOUR<FIVE<tX<SEVr<Eg<NiE~~~~~~:BASSA VAH nrNI=KA=SE=FA=MBE=YIE=GAH=DHII=KPAH=J",
    "O=HWAH=WA=ZO=GBU=x=CE=UWU=TO=BA=VU=YEi=PA=WADDA=A=O=OO=U=EE=E=I~~<COMBiiG HIGH TkE=LOW.=MID",
    ".=LOW-MID.=HIGH-LOW.<FULL STOP~~~~~~~~~~:PAvWH HMkG VOWEL KEEB=KEEV=KIB=KIV=KAUB=KAUV=KUB=K",
    "UV=KEB=KEV=KAIB=KAIV=KOOB=KOOV=KAWB=KAWV=KUAB=KUAV=KOB=KOV=KIAB=KIAV=KAB=KAV=KWB=KWV=KAAB=K",
    "AAV<CkSkjT VAU=NTSAU=LAU=vU=NLAU=RAU=NKAU=QvU=YAU=HLAU=MAU=CvU=NCvU=HNAU=PLvU=NpAU=NAU=AU=X",
    "AU=CAU<MhK CIM TUB>SO>KES>KvV>SUAM>HOM>TAUM<tGN VOS pOM>TSvB CEEB=CIM CHEEM=VOS pIAB>FEEM=X",
    "YEEM NTXIV>RHO>TOV>FAIB=VOS SEEV=MEEJ SUAB=VOS NRUA=IB YAM=XAUS=CIM TSOV ROG~~~~~~~~~~<DIGI",
    "T ZeO=kE=TWO=pyE=FOUR=FIVE=tX=SEVr=Eg=NiE~<NUMBe TrS=HUNDyDS=Tr pOUSjDS=MILLIkS=HUNDRoMILLI",
    "kS=Tr BILLIkS=TRILLIkS~<tGN VOS LUB=XYOO=HLI=pIRD-STAGwHLI=ZWJ pAJ=HNUB=NQIG=XIAB=NTUJ=AV=T",
    "XHEEJ CEEV=MEEJ TSEEB=TAU=LOS=MUS=CIM vIS LUS NTOG NTOG>CUAM TSHOOJ>TXWV?CHWV>PUB DAWB>NyS ",
    "TOS~~~~~<CLj tGN TSHEEJ>YEEG>LIS>LAUJ>XYOOJ>KOO>vWJ>MUAS>pOJ>TSAB>PvB>KvB>vM>VAJ>FAJ>YAJ>TS",
    "WB>KWM>VWJ"]⟩,
  ⟨0x16E40, [
    ":MEDEFAIDRi zM=S=V=W=AuU=Z=KP=P=T=G=F=I=K=A=J=E=B=C=U=YU=L=Q=HP=NY=X=D=OE=N=R=O=AI=Y;d nM=S",
    "=V=W=AuU=Z=KP=P=T=G=F=I=K=A=J=E=B=C=U=YU=L=Q=HP=NY=X=D=OE=N=R=O=AI=Y;DIGIT ZeO<kE<TWO<pyE<F",
    "OUR<FIVE<tX<SEVr<Eg<NiE;NUMBe Tr<EfVr<TWELVE<pIRTEr<FOURTEr<FIFTEr<tXTEr<SEVrTEr<EgEr<NiETE",
    "r;DIGIT kwlTeNATwFORM<TWO.<pyE.;COMMA;FULL STOP;SYMBOL AIVA;EXCLAMAuk OH"]⟩,
  ⟨0x16F00, [
    ":MIAO nPA<BA<YI PA<PLA<MA<Mv<hCvIC MA<FA<VA<VFA<TA<DA<YI TTA=TA<TTA<DDA<NA<Nv<YI NNA<hCvIC ",
    "NA<NNA<NNv<LA<LYA<Lv<LHYA<TLv<DLv<TLHYA<DLHYA<KA<GA<YI KA<QA<QGA<NGA<NGv<hCvIC NGA<v<XA<Gv<",
    "GHv<TSSA<DZZA<NYA<NYv<TSv<DZv<YI TSv=DZv<yFORMoTSv<Sv<SSA<Zv<ZSv<TSA<DZA<YI TSA<SA<ZA<ZSA<Z",
    "ZA<ZZSA<hCvIC ZZA<ZZYA<ZZSYA<WA<AH<Hv<BRI<SYI<DZYI<TE<TSE<RTE~~~~;tGN CkSkjT MODIFIe Bh;nNA",
    "SlIZAuk;tGN ASPIRAuk<yFORMoVOICiG=ASPIRAuk;VOWEL tGN A=AA=AHH=j=jG=O=OO=WO=W=E=r=rG=OEY=I=I",
    "A=Ij=IjG=IO=IE=II=IU=iG=U=UA=Uj=UjG=UU=UEI=UNG=Y=YI=AE=AEE=eR=ROUNDoeR=e=ROUNDoe=AI=EI=AU=O",
    "U=N=NG=UOG=YUI=OG=Oe=VW=IG=EA=IkG=UI~~~~~~~;TkwRg<TOP Rg<ABOVE<BELOW;nTkE-2<TkE-3<TkE-4<TkE",
    "-5<TkE-6<TkE-7<TkE-8<yFORMoTkE-1=TkE-2=TkE-4=TkE-5=TkE-6=TkE-8"]⟩,
  ⟨0x16FE0, [
    ":TjGUT ITeAuk MhK:NUSHU.:OLD CHiESwHOOK MhK<ITeAuk.:KHITj d SCRIPT FILLe~~~~~~~~~~~:VIETNAM",
    "ESwlTeNATwyADiG MhK CA>NvY"]⟩,
  ⟨0x18800, [
    ":TjGUT a001;a002;a003;a004;a005;a006;a007;a008;a009;a010;a011;a012;a013;a014;a015;a016;a017",
    ";a018;a019;a020;a021;a022;a023;a024;a025;a026;a027;a028;a029;a030;a031;a032;a033;a034;a035;",
    "a036;a037;a038;a039;a040;a041;a042;a043;a044;a045;a046;a047;a048;a049;a050;a051;a052;a053;a",
    "054;a055;a056;a057;a058;a059;a060;a061;a062;a063;a064;a065;a066;a067;a068;a069;a070;a071;a0",
    "72;a073;a074;a075;a076;a077;a078;a079;a080;a081;a082;a083;a084;a085;a086;a087;a088;a089;a09",
    "0;a091;a092;a093;a094;a095;a096;a097;a098;a099;a100;a101;a102;a103;a104;a105;a106;a107;a108",
    ";a109;a110;a111;a112;a113;a114;a115;a116;a117;a118;a119;a120;a121;a122;a123;a124;a125;a126;",
    "a127;a128;a129;a130;a131;a132;a133;a134;a135;a136;a137;a138;a139;a140;a141;a142;a143;a144;a",
    "145;a146;a147;a148;a149;a150;a151;a152;a153;a154;a155;a156;a157;a158;a159;a160;a161;a162;a1",
    "63;a164;a165;a166;a167;a168;a169;a170;a171;a172;a173;a174;a175;a176;a177;a178;a179;a180;a18",
    "1;a182;a183;a184;a185;a186;a187;a188;a189;a190;a191;a192;a193;a194;a195;a196;a197;a198;a199",
    ";a200;a201;a202;a203;a204;a205;a206;a207;a208;a209;a210;a211;a212;a213;a214;a215;a216;a217;",
    "a218;a219;a220;a221;a222;a223;a224;a225;a226;a227;a228;a229;a230;a231;a232;a233;a234;a235;a",
    "236;a237;a238;a239;a240;a241;a242;a243;a244;a245;a246;a247;a248;a249;a250;a251;a252;a253;a2",
    "54;a255;a256;a257;a258;a259;a260;a261;a262;a263;a264;a265;a266;a267;a268;a269;a270;a271;a27",
    "2;a273;a274;a275;a276;a277;a278;a279;a280;a281;a282;a283;a284;a285;a286;a287;a288;a289;a290",
    ";a291;a292;a293;a294;a295;a296;a297;a298;a299;a300;a301;a302;a303;a304;a305;a306;a307;a308;",
    "a309;a310;a311;a312;a313;a314;a315;a316;a317;a318;a319;a320;a321;a322;a323;a324;a325;a326;a",
    "327;a328;a329;a330;a331;a332;a333;a334;a335;a336;a337;a338;a339;a340;a341;a342;a343;a344;a3",
    "45;a346;a347;a348;a349;a350;a351;a352;a353;a354;a355;a356;a357;a358;a359;a360;a361;a362;a36",
    "3;a364;a365;a366;a367;a368;a369;a370;a371;a372;a373;a374;a375;a376;a377;a378;a379;a380;a381",
    ";a382;a383;a384;a385;a386;a387;a388;a389;a390;a391;a392;a393;a394;a395;a396;a397;a398;a399;",
    "a400;a401;a402;a403;a404;a405;a406;a407;a408;a409;a410;a411;a412;a413;a414;a415;a416;a417;a",
    "418;a419;a420;a421;a422;a423;a424;a425;a426;a427;a428;a429;a430;a431;a432;a433;a434;a435;a4",
    "36;a437;a438;a439;a440;a441;a442;a443;a444;a445;a446;a447;a448;a449;a450;a451;a452;a453;a45",
    "4;a455;a456;a457;a458;a459;a460;a461;a462;a463;a464;a465;a466;a467;a468;a469;a470;a471;a472",
    ";a473;a474;a475;a476;a477;a478;a479;a480;a481;a482;a483;a484;a485;a486;a487;a488;a489;a490;",
    "a491;a492;a493;a494;a495;a496;a497;a498;a499;a500;a501;a502;a503;a504;a505;a506;a507;a508;a",
    "509;a510;a511;a512;a513;a514;a515;a516;a517;a518;a519;a520;a521;a522;a523;a524;a525;a526;a5",
    "27;a528;a529;a530;a531;a532;a533;a534;a535;a536;a537;a538;a539;a540;a541;a542;a543;a544;a54",
    "5;a546;a547;a548;a549;a550;a551;a552;a553;a554;a555;a556;a557;a558;a559;a560;a561;a562;a563",
    ";a564;a565;a566;a567;a568;a569;a570;a571;a572;a573;a574;a575;a576;a577;a578;a579;a580;a581;",
    "a582;a583;a584;a585;a586;a587;a588;a589;a590;a591;a592;a593;a594;a595;a596;a597;a598;a599;a",
    "600;a601;a602;a603;a604;a605;a606;a607;a608;a609;a610;a611;a612;a613;a614;a615;a616;a617;a6",
    "18;a619;a620;a621;a622;a623;a624;a625;a626;a627;a628;a629;a630;a631;a632;a633;a634;a635;a63",
    "6;a637;a638;a639;a640;a641;a642;a643;a644;a645;a646;a647;a648;a649;a650;a651;a652;a653;a654",
    ";a655;a656;a657;a658;a659;a660;a661;a662;a663;a664;a665;a666;a667;a668;a669;a670;a671;a672;",
    "a673;a674;a675;a676;a677;a678;a679;a680;a681;a682;a683;a684;a685;a686;a687;a688;a689;a690;a",
    "691;a692;a693;a694;a695;a696;a697;a698;a699;a700;a701;a702;a703;a704;a705;a706;a707;a708;a7",
    "09;a710;a711;a712;a713;a714;a715;a716;a717;a718;a719;a720;a721;a722;a723;a724;a725;a726;a72",
    "7;a728;a729;a730;a731;a732;a733;a734;a735;a736;a737;a738;a739;a740;a741;a742;a743;a744;a745",
    ";a746;a747;a748;a749;a750;a751;a752;a753;a754;a755;a756;a757;a758;a759;a760;a761;a762;a763;",
    "a764;a765;a766;a767;a768"]⟩,
  ⟨0x1AFF0, [
    ":KATAKjA nMiNj TkE-2=TkE-3=TkE-4=TkE-5~=TkE-7=TkE-8=NASlIZoTkE-1>TkE-2>TkE-3>TkE-4>TkE-5~>T",
    "kE-7>TkE-8~<hCvIC E:HIRAGjA nhCvIC YE:HrTAIGjA nA-1<A-2<A-3<A-WO<I-1<I-2<I-3<I-4<U-1<U-2<U-",
    "3<U-4<U-5<E-2<E-3<E-4<E-5<E-6<O-1<O-2<O-3<KA-1<KA-2<KA-3<KA-4<KA-5<KA-6<KA-7<KA-8<KA-9<KA-1",
    "0<KA-11<KA-KE<KI-1<KI-2<KI-3<KI-4<KI-5<KI-6<KI-7<KI-8<KU-1<KU-2<KU-3<KU-4<KU-5<KU-6<KU-7<KE",
    "-1<KE-2<KE-3<KE-4<KE-5<KE-6<KO-1<KO-2<KO-3<KO-KI<SA-1<SA-2<SA-3<SA-4<SA-5<SA-6<SA-7<SA-8<t-",
    "1<t-2<t-3<t-4<t-5<t-6<SU-1<SU-2<SU-3<SU-4<SU-5<SU-6<SU-7<SU-8<SE-1<SE-2<SE-3<SE-4<SE-5<SO-1",
    "<SO-2<SO-3<SO-4<SO-5<SO-6<SO-7<TA-1<TA-2<TA-3<TA-4<u-1<u-2<u-3<u-4<u-5<u-6<u-7<TU-1<TU-2<TU",
    "-3<TU-4<TU-TO<TE-1<TE-2<TE-3<TE-4<TE-5<TE-6<TE-7<TE-8<TE-9<TO-1<TO-2<TO-3<TO-4<TO-5<TO-6<TO",
    "-RA<NA-1<NA-2<NA-3<NA-4<NA-5<NA-6<NA-7<NA-8<NA-9<NI-1<NI-2<NI-3<NI-4<NI-5<NI-6<NI-7<NI-TE<N",
    "U-1<NU-2<NU-3<NE-1<NE-2<NE-3<NE-4<NE-5<NE-6<NE-KO<NO-1<NO-2<NO-3<NO-4<NO-5<v-1<v-2<v-3<v-4<",
    "v-5<v-6<v-7<v-8<v-9<v-10<v-11<HI-1<HI-2<HI-3<HI-4<HI-5<HI-6<HI-7<HU-1<HU-2<HU-3<HE-1<HE-2<H",
    "E-3<HE-4<HE-5<HE-6<HE-7<HO-1<HO-2<HO-3<HO-4<HO-5<HO-6<HO-7<HO-8<MA-1<MA-2<MA-3<MA-4<MA-5<MA",
    "-6<MA-7<MI-1<MI-2<MI-3<MI-4<MI-5<MI-6<MI-7<MU-1<MU-2<MU-3<MU-4<ME-1<ME-2<ME-MA<MO-1<MO-2<MO",
    "-3<MO-4<MO-5<MO-6<YA-1<YA-2<YA-3<YA-4<YA-5<YA-YO<YU-1<YU-2<YU-3<YU-4<YO-1<YO-2<YO-3<YO-4<YO",
    "-5<YO-6<RA-1<RA-2<RA-3<RA-4<RI-1<RI-2<RI-3<RI-4<RI-5<RI-6<RI-7<RU-1<RU-2<RU-3<RU-4<RU-5<RU-",
    "6<y-1<y-2<y-3<y-4<RO-1<RO-2<RO-3<RO-4<RO-5<RO-6<WA-1<WA-2<WA-3<WA-4<WA-5<WI-1<WI-2<WI-3<WI-",
    "4<WI-5<WE-1<WE-2<WE-3<WE-4<WO-1<WO-2<WO-3<WO-4<WO-5<WO-6<WO-7<N-MU-MO-1<N-MU-MO-2:HIRAGjA n",
    "hCvIC WU:KATAKjA nhCvIC YI=YE=WU"]⟩,
  ⟨0x1B150, [
    ":HIRAGjA nd WI=WE=WO"]⟩,
  ⟨0x1B164, [
    ":KATAKjA nd WI=WE=WO=N"]⟩,
  ⟨0x1BC00, [
    ":DUPLOYj nH<X<P<T<F<K<L<B<D<V<G<R<P N<D S<F N<K M<R S<p<SLOj DH<DH<KK<SLOj J<HL<LH<RH<M<N<J",
    "<S<M N<N M<J.<S J<McxT<N.<J.>xTS itDwjDq<ScxT?BELOW<M S<N.<J.<S.<M N S<N M.<J.<S J.<J ScxT=",
    "N>S<S T>R=P>R<T S=R S<W<WH<W R<S N=M<K R S<G.<S K>R<A<SLOj OW<OA<O<AOU<I<E<IE<SHORT I<UI<EE",
    "<SLOj EH<ROMjIj I<SLOj EE<LkG I<YE<U<EU<XW<U N<LkG U<ROMjIj.<UH<SLOj U<OOH<OW<OU<WA<WO<WI<W",
    "EI<WOW<NASl U=O=I=A<PeNi j=AM<SLOj r=j=k<VOClIC M~~~~~;AFFIX fFT HORIZkTl SECjT<MID.<Rg.<LO",
    "W VeuCl.<MID.<HIGH.<ATTACHoSECjT=fFT-TO-Rg SECjT=TjGrT=TAIL=wHOOK=I.=TjGrT.~~~<HIGH ACUTE=T",
    "g ACUTE=GRAVE=LkG GRAVE=xT=CIRCf=LiE=WAVE=VeuCl~~~~~~~<LOW ACUTE=Tg ACUTE=GRAVE=LkG GRAVE=x",
    "T=CIRCf=LiE=WAVE=VeuCl=hROW~~;tGN OcCROSS;pICK nSEfCTOR;xUBf MhK;PUNCTUAuk CHiOOK FULL STOP",
    ":SHORpjD FORMAT nOVeLAP<CkTiUiG.<xWN STEP<UP."]⟩,
  ⟨0x1CF00, [
    ":ZNAMrNY COMBiiG MhK GORAZx NIZKO S KRYZHEM k fFT=NIZKO S KRYZHEM k fFT=TSATA k fFT=GORAZx ",
    "NIZKO k fFT=NIZKO k fFT=SyDNE.=MlO POVYSHwk fFT=POVYSHwk fFT=VYSOKO.=MlO POVYSHwS KHOKHLOM ",
    "k fFT=POVYSHwS KHOKHLOM k fFT=VYSOKO.=GORAZx NIZKO S KRYZHEM k Rg=NIZKO S KRYZHEM k Rg=TSAT",
    "A k Rg=GORAZx NIZKO k Rg=NIZKO k Rg=SyDNE.=MlO POVYSHwk Rg=POVYSHwk Rg=VYSOKO.=MlO POVYSHw",
    "S KHOKHLOM k Rg=POVYSHwS KHOKHLOM k Rg=VYSOKO.=TSATA S KRYZHEM=MlO POVYSHwS KRYZHEM=STRjNO ",
    "MlO POVYSHE=POVYSHwS KRYZHEM>STRjNO=VYSOKO S KRYZHEM=MlO POVYSHwSTRjNO=GORAZx VYSOKO=ZELO=k",
    "=RAVNO=uKvYA=BORZAYA=UDhKA=PODVeTKA=LOMKA=KUPNAYA=KACHKA=ZEVOK=SKOBA=RAZSEKA=KRYZH k fFT~~<",
    "Tkl RjGwMhK MRACHNO?SVETLO?TySVETLO<MhK ZADeZHKA=DEMESTVrNY ZADeZHKA=OTSECHKA=PODCvSHIE>WI",
    "p VeuCl STROKE=CvSHKA>POLNAYA=OBLACHKO=SOROCHYA NOZHKA=TOCHKA=DVOETOCHIE<ATTACHiG VeuCl OME",
    "T<MhK CURVED.=KRYZH<LOWe Tkl RjGwiDICATOR;PRIZNAK MODIFIe fVEL-2=fVEL-3=DIyCuk FLIP=KRYZH=R",
    "OG~~~~~~~~~;NEUMwKRYUK=uKHY<PhAKLIT<DVA V CHELNU<KLYUCH<ZjOZHEK<STOPITSA=S OCHKOM<PeEVODKA=",
    "NEPOSTOYjNAYA<STOPITSAcSOROCHYA NOZHKA<CHELYUSTKA<PlKA<ZAPYATAYA<GOLUBCHIK BORZY=uKHY=MRACH",
    "NY=SVETLY=TySVETLY<VRAKHIYA PROSTAYA=MRACHNAYA=SVETLAYA=TySVETLAYA=KLYUCHEVAYA PROSTAYA>MRA",
    "CHNAYA>SVETLAYA>TySVETLAYA<xUBf ZAPYATAYA<yVeSoCHELYUSTKA<DeBITSA<KvMILO<CvSHKA<PODCvSHIE<S",
    "KAMEYTSA MRACHNAYA=SVETLAYA=TySVETLAYA=uKvYA<DEMESTVrNY KLYUCH<SKAMEYTSA KLYUCHEVAYA SVETLA",
    "YA=KLYUCHrEPOSTOYjNAYA=KLYUCHEVAYA uKvYA=DVOECHELNAYA PROSTAYA>SVETLAYA>NEPOSTOYjNAYA>KLYUC",
    "HEVAYA<SLOZHIuE=S ZAPYATOY=ZAKRYTOE=S KRYZHEM<KRYZH<ROG<FITA<KOBYLA<ZMEYTSA<STATYA=S ZAPYAT",
    "OY>KRYZHEM>ZAPYATOY I KRYZHEM>KRYZHEM I ZAPYATOY=ZAKRYTAYA>S ZAPYATOY=S ROGOM>DVUMYA ZAPYAT",
    "YMI>ZAPYATOY I PODCvSHIEM<POLKULIZMY<STATYA NEPOSTOYjNAYA<STyLA PROSTAYA=MRACHNOuKvYA=KRYZH",
    "EVAYA=POLUPOVODNAYA=POVODNAYA=NEPOSTOYjNAYA=KLYUCHEPOVODNAYA=KLYUCHrEPOSTOYjNAYA=uKvYA PUTN",
    "AYA=DVOECHELNAYA=DVOECHELNOKRYZHEVAYA=DVOECHELNOPOVODNAYA=DVOECHELNAYA KLYUCHEVAYA=DVOECHEL",
    "NOPOVODNAYA.=GROMNAYAcSiGf ZAPYATAYA=GROMOPOVODNAYA.=GROMNAYA=GROMOPOVODNAYA>WIp xUBf ZAPYA",
    "TAYA=GROMOKRYZHEVAYA>POVODNAYA<MECHIK=POVODNY=KLYUCHEVOY=KLYUCHEPOVODNY=KLYUCHrEPOSTOYjNY<S",
    "TyLA TRYASOGLASNAYA=TRYASOPOVODNAYA=TRYASOSTyLNAYA<OSOKA=SVETLAYA=TySVETLAYA=KRYUKOVAYA SVE",
    "TLAYA=KLYUCHEVAYA.>NEPOSTOYjNAYA<STyLA KRYUKOVAYA>POVODNAYA>GROMNAYAcSiGf ZAPYATAYA>GROMOPO",
    "VODNAYA.>GROMNAYA>GROMOPOVODNAYA?WIp xUBf ZAPYATAYA>GROMOKRYZHEVAYA?POVODNAYA>TRYASKA<KUFIS",
    "MA<OBLAKO<DUDA<NEMKA<PAUK"]⟩,
  ⟨0x1D000, [
    ":BYZjTiwMUtCl SYMBOL PtLI=DASEIA=PeISPOMrI=OXEIA EKFkIuKk>DIPLI=VhEIA EKFkIuKk>DIPLI=KApISu",
    "=SYRMAuKI=PhAKLIuKI=YPOKRItS>DIPLI=KyMASu=APESO EKFkIuKk=EXO.=TEfIA=KruMATA=APOSTROFOS>DIPL",
    "I=SYNEVMA=pITA=OLIGk hCvIk=GORGk.=PtLk=CvMILk=VApY=ISk hCvIk=KruMA.=KruMATA.=SAXIMATA=PhICH",
    "k=STAVROS APODEXIA=OXEIAI hCvIk=VhEIAI.=APODeMA.=APOpEMA=KLASMA=yVMA=PIASMA hCvIk=TiAGMA=jA",
    "TRICHISMA=SEISMA=SYNAGMA hCvIk>META STAVROU=OYRjISMA hCvIk=pEMA=fMOI=DYO=TRIA=TESSeA=KRAuMA",
    "TA=APESO EXO NEO=FpORA hCvIk=IMIFpORA=TROMIKk hCvIk=KATAVA TROMIKk=PELASTk=PtFISTk=KkTEVMA=",
    "CHOyVMA hCvIk=RAPISMA=PhAKAfSMA hCvIk=PhAKLIuKI.=ICvDi=NjA=PETASMA=KkTEVMA lLO=TROMIKk.=STR",
    "AGGISMATA=GRkpISMATA=ISk NEO=OLIGk.=OXEIA.=PETASu=KOUFISMA=PETASTOKOUFISMA=KRAuMOKOUFISMA=P",
    "ELASTk NEO=KruMATA NEO jO=KruMA.=YPtLI=APOSTROFOS NEO=APOSTROFOI SYNDESMOS NEO=YPORROI=KRAu",
    "MOYPORROk=ELAFRk=CvMILI=MIKRk ISk=VhEIA NEO=PIASMA.=PtFISTk.=OMlk=juKrOMA=LYGISMA=PhAKLIuK",
    "I NEO=PhAKAfSMA.=ETek PhAKAfSMA=KYLISMA=juKrOKYLISMA=TROMIKk NEO=EKSTyPTk=SYNAGMA NEO=SYRMA",
    "=CHOyVMA NEO=EPEGeMA=SEISMA NEO=XIRk KLASMA=TROMIKOPtFISTk=PtFISTOLYGISMA=TROMIKOLYGISMA=TR",
    "OMIKOPhAKAfSMA=PtFISTOPhAKAfSMA=TROMIKOSYNAGMA=PtFISTOSYNAGMA=GORGOSYNpETk=hGOSYNpETk=ETek ",
    "hGOSYNpETk=OYRjISMA NEO=pEMAuSMOS ESO>EXO=pEMA APLOUN=pES KAI APOpES=KATAVASMA=rxFkk=YFr KA",
    "TO>jO=STAVROS=KLASMA jO=DIPLI hCvIk=KRAuMA.>lLO>NEO=APODeMA.=APLI=DIPLI=TRIPLI=TETRAPLI=KOR",
    "kIS=fIMMA rOS CHRkOU>DYO CHRkk>TRIk.>TESShk.>IMISEOS CHRkOU=GORGk NEO jO>PhESuGMrk hISTeA?D",
    "EXIA=DIGORGk>PhESuGMrk hISTeA KATO@jO?DEXIA=TRIGORGk=hGk=IMIDIhGk=DIhGk=AGOGI POLI hGI>hGOT",
    "eI>hGI>METRIA>MEt>GORGI>GORGOTeI>POLI GORGI=MhTYRIA PROTOS ICHOS>lLI PROTOS ICHOS>DEYTeOS I",
    "CHOS>lLI DEYTeOS ICHOS>TRITOS ICHOS>TRIFkIAS>TEThTOS ICHOS?fGETOS ICHOS>fGETOS ICHOS>PLAGIO",
    "S.=ISAKIA TELOUS ICHIMATOS=APOSTROFOI.=FjeOtS TETRAFkIAS>MkOFkIAS>DIFkIAS=MhTYRIA VhYS ICHO",
    "S>PROTOVhYS.>PLAGIOS TEThTOS ICHOS=GORpMIKk N APLOUN?DIPLOUN=rhXIS KAI FpORA VOU=IMIFkk=IMI",
    "FpORk=FpORA hCvIk DEYTeOU ICHOU>DIATkIKI PA?NjA>NAOS ICHOS>DIATkIKI DI>SKLIRk DIATkk DI>DIA",
    "TkIKI KE?ZO?NI KATO@jO>MlAKk CHROMA DIFkIAS@MkOFkIAS=FHTORA SKLIRk CHROMA VAtS=FpORA SKLIR",
    "k CHROMA SYNAFI>NrjO=CHROA ZYGOS>KLITk>SPApI=FpORA I YFEtS TEThuMORIk>rhMkIOS juFkIA=YFEtS ",
    "TRIuMORIk=DIEtS.>TEThuMORIk>APLI DYO xDEKATA>MkOGRAMMOS TESSeA.>DIGRAMMOS EX.>TRIGRAMMOS OK",
    "TO.=YFEtS APLI DYO.>MkOGRAMMOS TESSeA.>DIGRAMMOS EX.>TRIGRAMMOS OKTO.=GrIKI DIEtS>YFEtS=DIA",
    "STOLI APLI MIKRI?MEGlI>DIPLI>pESEOS=tMjtS.?DItMOU?TRItMOU?TETRAtMOU>hSEOS?DItMOU?TRItMOU?TE",
    "TRAtMOU=DIGRAMMA GG=DIFTOGGOS OU=SuGMA=hKuKO PA>VOU>GA>DI>KE>ZO>NI=KruMATA NEO MESO=KruMA.=",
    "KruMATA NEO KATO=KruMA.=KLASMA KATO=GORGk NEO KATO~~~~~~~~~~:MUtCl SYMBOL SiGf BhLiE<xUBf.<",
    "Fil.<yVeSwFil BhLiE<DASHoBhLiE<SHORT.<fFT yPEAT tGN<Rg.<yPEAT xTS<Dl SEGNO<DA CAPO<SEGNO<CO",
    "DA<yPEAToFIGUy-1=FIGUy-2=FIGUy-3<FeMATA=BELOW<ByAp MhK<CAESURA<BRACE<BRACKET<kE-LiwSTAFF<TW",
    "O-LiE.<pyE-LiE.<FOUR-LiE.<FIVE-LiE.<tX-LiE.<tX-STRiG FyTBOhD<FOUR-STRiG.<G CfF>OTTAVA lTA?B",
    "ASSA<C CfF<F.>OTTAVA lTA?BASSA<DRUM CfF-1=CfF-2~~<MULuPf MEASURwyST<xUBf SHhP=FLAT<FLAT UP=",
    "xWN<NATURl UP=xWN<SHhP UP=xWN<QUhTe TkwSHhP>FLAT<COMMk uME<CUT.<OTTAVA lTA=BASSA<QUiDICEtM",
    "A lTA=BASSA<MULu yST<WHOf.<HlF.<QUhTe.<EgH.<tXTErp.<pIRTY-SECkD.<tXTY-FOURp.<kwHUNDRoTWrTY-",
    "EgH yST<X NOTEHEAD<PLUS.<CIRCf X NOTEHEAD<SQUhwNOTEHEAD WHITE>BLACK<TRIjGf NOTEHEAD UP WHIT",
    "E?BLACK>fFT WHITE?BLACK>Rg WHITE?BLACK>xWN WHITE?BLACK>UP Rg WHITE@BLACK<MOk NOTEHEAD WHITE",
    ">BLACK<TRIjGf-ROUND NOTEHEAD xWN WHITE?BLACK<PhrpEtS NOTEHEAD<VOID.<NOTEHEAD BLACK<NULL NOT",
    "EHEAD<CLUSTe NOTEHEAD WHITE>BLACK<ByVE<WHOf NOTE<HlF.<QUhTe.<EgH.<tXTErp.<pIRTY-SECkD.<tXTY",
    "-FOURp.<kwHUNDRoTWrTY-EgH NOTE<COMBiiG STEM=SPyCHGESjG STEM=TyMOLO-1=TyMOLO-2=TyMOLO-3<FiGe",
    "oTyMOLO-1=TyMOLO-2=TyMOLO-3<COMBiiG AUGMrTAuk xT=FLAG-1=FLAG-2=FLAG-3=FLAG-4=FLAG-5<BEGi BE",
    "AM<rD.<BEGi uE<rD.<BEGi SLUR<rD.<BEGi PHRASE<rD.<COMBiiG ACCrT=STACCATO=TrUTO=STACCAuStMO=M",
    "hCATO=MhCATO-STACCATO=ACCrT-STACCATO=LOUy<hPEGGIATO UP=xWN<COMBiiG xIT=RIP=FLIP=SMEh=BrD=xU",
    "Bf TkGUE=TRIPf.<RiFORZjx<SUBITO<Z<PIjO<MEZZO<FORTE<CySCrx<DECySCrx<GRACwNOTwSLASH>NO SLASH<",
    "TR<TURN<iVeToTURN<TURN SLASH=UP<ORNAMrT STROKE-1=STROKE-2=STROKE-3=STROKE-4=STROKE-5=STROKE",
    "-6=STROKE-7=STROKE-8=STROKE-9=STROKE-10=STROKE-11<vUPTSuMME<NEBrSuMME<rD OF SuMME<DEGywSLAS",
    "H<COMBiiG xWN BOW=UP.=HhMkIC=SNAP PIZZICATO<PEDl MhK=UP MhK<HlF PEDl.<GLISSjx UP=xWN<WIp Fi",
    "GeNAILS<DAMP=lL<MAXIMA<LkGA<ByVIS<SEMIByVIS WHITE=BLACK<MiIMA=BLACK<SEMIMiIMA WHITE=BLACK<F",
    "USA WHITE=BLACK<LkGA PeFECTA yST=IMPeFECTA.<ByVIS yST<SEMIByVIS.<MiIMA.<SEMIMiIMA.<TEMPUS P",
    "eFECTUM CUM PROLAukwPeFECTA@IMPeFECTA@PeFECTA DIMiUuk-1=IMPeFECTUM CUM PROLAukwPeFECTA@IMPe",
    "FECTA@IMPeFECTA DIMiUuk-1@IMPeFECTA DIMiUuk-2@IMPeFECTA DIMiUuk-3<CROIX<GyGORIj C CfF=F.<SQ",
    "UhwB<VIRGA<PODATUS<CLIVIS<SCjDICUS<CLIMACUS<TORCULUS<PORyCTUS=FfXUS<SCjDICUS.<TORCULUS ySUP",
    "iUS<PES SUBPUNCuS<KIEVj C CfF=rD OF PIECE=Fil NOTE=yCITAuVwMhK=WHOf NOTE=HlF.=QUhTe NOTwSTE",
    "M xWN@UP=EgH NOTwSTEM xWN@UP=FLAT tGN<SORI<KORk"]⟩,
  ⟨0x1D200, [
    ":GyEK VOCl NOTAuk SYMBOL-1=SYMBOL-2=SYMBOL-3=SYMBOL-4=SYMBOL-5=SYMBOL-6=SYMBOL-7=SYMBOL-8=S",
    "YMBOL-9=SYMBOL-10=SYMBOL-11=SYMBOL-12=SYMBOL-13=SYMBOL-14=SYMBOL-15=SYMBOL-16=SYMBOL-17=SYM",
    "BOL-18=SYMBOL-19=SYMBOL-20=SYMBOL-21=SYMBOL-22=SYMBOL-23=SYMBOL-24=SYMBOL-50=SYMBOL-51=SYMB",
    "OL-52=SYMBOL-53=SYMBOL-54;iSTRUMrTl NOTAuk SYMBOL-1=SYMBOL-2=SYMBOL-4=SYMBOL-5=SYMBOL-7=SYM",
    "BOL-8=SYMBOL-11=SYMBOL-12=SYMBOL-13=SYMBOL-14=SYMBOL-17=SYMBOL-18=SYMBOL-19=SYMBOL-23=SYMBO",
    "L-24=SYMBOL-25=SYMBOL-26=SYMBOL-27=SYMBOL-29=SYMBOL-30=SYMBOL-32=SYMBOL-36=SYMBOL-37=SYMBOL",
    "-38=SYMBOL-39=SYMBOL-40=SYMBOL-42=SYMBOL-43=SYMBOL-45=SYMBOL-47=SYMBOL-48=SYMBOL-49=SYMBOL-",
    "50=SYMBOL-51=SYMBOL-52=SYMBOL-53=SYMBOL-54:COMBiiG GyEK MUtCl TRISEME=TETRASEME=PrTASEME:Gy",
    "EK MUtCl fIMMA"]⟩,
  ⟨0x1D2E0, [
    ":MAYj NUMel ZeO<kE<TWO<pyE<FOUR<FIVE<tX<SEVr<Eg<NiE<Tr<EfVr<TWELVE<pIRTEr<FOURTEr<FIFTEr<tX",
    "TEr<SEVrTEr<EgEr<NiETEr"]⟩,
  ⟨0x1D300, [
    ":MkOGRAM FOR Ehp:DIGRAM FOR HEAVrLY Ehp<HUMj.<EhpLY HEAVr=HUMj<Ehp:TETRAGRAM FOR CrTy<FULL ",
    "CIRCf<MIyD<BhRIe<KEEPiG d<CkTRhIETY<ASCrT<OPPOtuk<BRjCHiG OUT<DEFECuVrESS OR DISTORuk<DIVeG",
    "rCE<YOUpFULNESS<iCyASE<PrETRAuk<yACH<CkTACT<HOLDiG BACK<WAITiG<FOLLOWiG<ADVjCE<yfASE<ytSTjC",
    "E<EASE<JOY<CkTruk<rDEAVOUR<DUuES<CHjGE<DECItVrESS<BOLD ySOLUuk<PACKiG<fGIk<CLOSrESS<KiSHIP<",
    "GApeiG<STRrGp<PURITY<FULLNESS<ytDrCE<LAW OR MODEL<ySPkSE<GOiG TO MEET<rCOUNTeS<STOVE<GyATNE",
    "SS<rLhGEMrT<PATTeN<RITUl<FLg<VASTNESS OR WASTiG<CkSTjCY<MEASUy<ETeNITY<UNITY<DIMiISHMrT<CLO",
    "SoMOUp<GUhDEDNESS<GApeiG i<MASSiG<ACCUMULAuk<EMBELLISHMrT<xUBT<WATCH<SiKiG<iNe<DEPhTUy<DhKr",
    "iG<DIMMiG<EXvUSuk<SEVejCE<STOPPAGE<HhDNESS<COMPfuk<CLOSUy<FAILUy<AGGRAVAuk<COMPLIjCE<k pwVe",
    "GE<DIFFICULuES<LABOURiG<FOSTeiG~~~~~~~~~:COUNTiG ROD UNIT DIGIT kE>TWO>pyE>FOUR>FIVE>tX>SEV",
    "r>Eg>NiE<TrS DIGIT kE>TWO>pyE>FOUR>FIVE>tX>SEVr>Eg>NiE:IDEOGRAPHIC TlLY MhK kE=TWO=pyE=FOUR",
    "=FIVE:TlLY MhK kE<FIVE"]⟩,
  ⟨0x1D400, [
    ":MApEMAuCl BOLD CAPITl A=B=C=D=E=F=G=H=I=J=K=L=M=N=O=P=Q=R=S=T=U=V=W=X=Y=Z<d A=B=C=D=E=F=G=",
    "H=I=J=K=L=M=N=O=P=Q=R=S=T=U=V=W=X=Y=Z;ITlIC CAPITl A=B=C=D=E=F=G=H=I=J=K=L=M=N=O=P=Q=R=S=T=",
    "U=V=W=X=Y=Z<d A=B=C=D=E=F=G~=I=J=K=L=M=N=O=P=Q=R=S=T=U=V=W=X=Y=Z;BOLD ITlIC CAPITl A>B>C>D>",
    "E>F>G>H>I>J>K>L>M>N>O>P>Q>R>S>T>U>V>W>X>Y>Z=d A>B>C>D>E>F>G>H>I>J>K>L>M>N>O>P>Q>R>S>T>U>V>W",
    ">X>Y>Z;SCRIPT CAPITl A~=C=D~~=G~~=J=K~~=N=O=P=Q~=S=T=U=V=W=X=Y=Z<d A=B=C=D~=F~=H=I=J=K=L=M=",
    "N~=P=Q=R=S=T=U=V=W=X=Y=Z;BOLD SCRIPT CAPITl A>B>C>D>E>F>G>H>I>J>K>L>M>N>O>P>Q>R>S>T>U>V>W>X",
    ">Y>Z=d A>B>C>D>E>F>G>H>I>J>K>L>M>N>O>P>Q>R>S>T>U>V>W>X>Y>Z;FRAKTUR CAPITl A=B~=D=E=F=G~~=J=",
    "K=L=M=N=O=P=Q~=S=T=U=V=W=X=Y~<d A=B=C=D=E=F=G=H=I=J=K=L=M=N=O=P=Q=R=S=T=U=V=W=X=Y=Z;xUBf-ST",
    "RUCK CAPITl A=B~=D=E=F=G~=I=J=K=L=M~=O~~~=S=T=U=V=W=X=Y~<d A=B=C=D=E=F=G=H=I=J=K=L=M=N=O=P=",
    "Q=R=S=T=U=V=W=X=Y=Z;BOLD FRAKTUR CAPITl A>B>C>D>E>F>G>H>I>J>K>L>M>N>O>P>Q>R>S>T>U>V>W>X>Y>Z",
    "=d A>B>C>D>E>F>G>H>I>J>K>L>M>N>O>P>Q>R>S>T>U>V>W>X>Y>Z;SjS-SeIF CAPITl A=B=C=D=E=F=G=H=I=J=",
    "K=L=M=N=O=P=Q=R=S=T=U=V=W=X=Y=Z<d A=B=C=D=E=F=G=H=I=J=K=L=M=N=O=P=Q=R=S=T=U=V=W=X=Y=Z<BOLD ",
    "CAPITl A>B>C>D>E>F>G>H>I>J>K>L>M>N>O>P>Q>R>S>T>U>V>W>X>Y>Z=d A>B>C>D>E>F>G>H>I>J>K>L>M>N>O>",
    "P>Q>R>S>T>U>V>W>X>Y>Z<ITlIC CAPITl A>B>C>D>E>F>G>H>I>J>K>L>M>N>O>P>Q>R>S>T>U>V>W>X>Y>Z=d A>",
    "B>C>D>E>F>G>H>I>J>K>L>M>N>O>P>Q>R>S>T>U>V>W>X>Y>Z<BOLD ITlIC CAPITl A?B?C?D?E?F?G?H?I?J?K?L",
    "?M?N?O?P?Q?R?S?T?U?V?W?X?Y?Z>d A?B?C?D?E?F?G?H?I?J?K?L?M?N?O?P?Q?R?S?T?U?V?W?X?Y?Z;MkOSPACw",
    "CAPITl A=B=C=D=E=F=G=H=I=J=K=L=M=N=O=P=Q=R=S=T=U=V=W=X=Y=Z<d A=B=C=D=E=F=G=H=I=J=K=L=M=N=O=",
    "P=Q=R=S=T=U=V=W=X=Y=Z;ITlIC d xTfSS I>J~~;BOLD CAPITl lPv=BETA=GAMMA=DELTA=EPtLk=ZETA=ETA=p",
    "ETA=IOTA=KAPPA=LAMDA=MU=NU=XI=OMICRk=PI=RHO=pETA SYMBOL=tGMA=TAU=UPtLk=PHI=CHI=Pt=OMEGA<NAB",
    "LA<d lPv=BETA=GAMMA=DELTA=EPtLk=ZETA=ETA=pETA=IOTA=KAPPA=LAMDA=MU=NU=XI=OMICRk=PI=RHO=Fil t",
    "GMA=tGMA=TAU=UPtLk=PHI=CHI=Pt=OMEGA<Phul DIFFerul<EPtLk SYMBOL<pETA.<KAPPA.<PHI.<RHO.<PI.;I",
    "TlIC CAPITl lPv=BETA=GAMMA=DELTA=EPtLk=ZETA=ETA=pETA=IOTA=KAPPA=LAMDA=MU=NU=XI=OMICRk=PI=RH",
    "O=pETA SYMBOL=tGMA=TAU=UPtLk=PHI=CHI=Pt=OMEGA<NABLA<d lPv=BETA=GAMMA=DELTA=EPtLk=ZETA=ETA=p",
    "ETA=IOTA=KAPPA=LAMDA=MU=NU=XI=OMICRk=PI=RHO=Fil tGMA=tGMA=TAU=UPtLk=PHI=CHI=Pt=OMEGA<Phul D",
    "IFFerul<EPtLk SYMBOL<pETA.<KAPPA.<PHI.<RHO.<PI.;BOLD ITlIC CAPITl lPv>BETA>GAMMA>DELTA>EPtL",
    "k>ZETA>ETA>pETA>IOTA>KAPPA>LAMDA>MU>NU>XI>OMICRk>PI>RHO>pETA SYMBOL>tGMA>TAU>UPtLk>PHI>CHI>",
    "Pt>OMEGA=NABLA=d lPv>BETA>GAMMA>DELTA>EPtLk>ZETA>ETA>pETA>IOTA>KAPPA>LAMDA>MU>NU>XI>OMICRk>",
    "PI>RHO>Fil tGMA>tGMA>TAU>UPtLk>PHI>CHI>Pt>OMEGA=Phul DIFFerul=EPtLk SYMBOL=pETA.=KAPPA.=PHI",
    ".=RHO.=PI.;SjS-SeIF BOLD CAPITl lPv>BETA>GAMMA>DELTA>EPtLk>ZETA>ETA>pETA>IOTA>KAPPA>LAMDA>M",
    "U>NU>XI>OMICRk>PI>RHO>pETA SYMBOL>tGMA>TAU>UPtLk>PHI>CHI>Pt>OMEGA=NABLA=d lPv>BETA>GAMMA>DE",
    "LTA>EPtLk>ZETA>ETA>pETA>IOTA>KAPPA>LAMDA>MU>NU>XI>OMICRk>PI>RHO>Fil tGMA>tGMA>TAU>UPtLk>PHI",
    ">CHI>Pt>OMEGA=Phul DIFFerul=EPtLk SYMBOL=pETA.=KAPPA.=PHI.=RHO.=PI.=ITlIC CAPITl lPv?BETA?G",
    "AMMA?DELTA?EPtLk?ZETA?ETA?pETA?IOTA?KAPPA?LAMDA?MU?NU?XI?OMICRk?PI?RHO?pETA SYMBOL?tGMA?TAU",
    "?UPtLk?PHI?CHI?Pt?OMEGA>NABLA>d lPv?BETA?GAMMA?DELTA?EPtLk?ZETA?ETA?pETA?IOTA?KAPPA?LAMDA?M",
    "U?NU?XI?OMICRk?PI?RHO?Fil tGMA?tGMA?TAU?UPtLk?PHI?CHI?Pt?OMEGA>Phul DIFFerul>EPtLk SYMBOL>p",
    "ETA.>KAPPA.>PHI.>RHO.>PI.;BOLD CAPITl DIGAMMA<d.~~<DIGIT ZeO=kE=TWO=pyE=FOUR=FIVE=tX=SEVr=E",
    "g=NiE;xUBf-STRUCK DIGIT ZeO=kE=TWO=pyE=FOUR=FIVE=tX=SEVr=Eg=NiE;SjS-SeIF DIGIT ZeO=kE=TWO=p",
    "yE=FOUR=FIVE=tX=SEVr=Eg=NiE<BOLD DIGIT ZeO>kE>TWO>pyE>FOUR>FIVE>tX>SEVr>Eg>NiE;MkOSPACwDIGI",
    "T ZeO=kE=TWO=pyE=FOUR=FIVE=tX=SEVr=Eg=NiE:tGNWRITiG HjD-FIST iDEX;HjD-CIRCf.;HjD-CUP.;HjD-O",
    "Vl.;HjD-HiGE.;HjD-jGf.;HjD-FIST iDEX BrT;HjD-CIRCf.;HjD-FIST pUMB UNDe iDEX BrT<iDEX RAISoK",
    "NUCKf=CUPPED=HiGED>LOW;HjD-CIRCf iDEX HiGE;HjD-FIST iDEX MIDDf;HjD-CIRCf.;HjD-FIST iDEX MID",
    "Df BrT>RAISoKNUCKfS>HiGED=UP MIDDf HiGED=HiGoMIDDf UP=MIDDf CkJOiED?iDEX BrT?MIDDf.?CUPPED?",
    "HiGED>CROSSED;HjD-CIRCf.;HjD-FIST MIDDf BrT OVe iDEX<iDEX BrT OVe MIDDf=MIDDf pUMB;HjD-CIRC",
    "f.;HjD-FIST iDEX MIDDf STRAg pUMB BrT>BrT pUMB STRAg>pUMB BrT>HiGoSPyAD pUMB tDE=UP MIDDf H",
    "iGED.@pUMB CkJOiED=HiGoMIDDf UP pUMB tDE=MIDDf UP SPyAD pUMB FORWhD>pUMB CUPPED?CIRCfD?HOOK",
    "ED?HiGED<pUMB BETWEr iDEX MIDDf STRAg<iDEX MIDDf CkJOiopUMB tDE@tDwCkJOiED@tDwBrT<MIDDf pUM",
    "B HOOKoiDEX UP<iDEX pUMB HOOKoMIDDf.=MIDDf CkJOioHiGopUMB tDE>CROSSopUMB tDE>CkJOiopUMB FOR",
    "WhD?CUPPopUMB FORWhD<MIDDf pUMB CUPPoiDEX UP<iDEX pUMB CUPPoMIDDf.<MIDDf pUMB CIRCfD iDEX.@",
    "HiGED<iDEX pUMB jGfD OUT MIDDf UP?i.>CIRCfD MIDDf UP=MIDDf pUMB CkJOioHiGED?jGfD OUT?jGfD<M",
    "IDDf pUMB jGfD OUT iDEX UP@iDEX CROSSED?iDEX UP<iDEX pUMB HOOKoMIDDf HiGED;HjD-FLAT FOUR Fi",
    "GeS>BrT>HiGED>CkJOiED?SPLIT;HjD-CLAW FOUR FiGeS CkJOiED;HjD-FIST FOUR FiGeS CkJOioBrT;HjD-H",
    "iGwFOUR FiGeS CkJOiED;HjD-FLAT FIVwFiGeS SPyAD<HEEL FIVwFiGeS SPyAD<FIVwFiGeS SPyAD FOUR Br",
    "T<HEEL FIVwFiGeS SPyAD FOUR BrT<FIVwFiGeS SPyAD BrT<HEEL FIVwFiGeS SPyAD BrT<FIVwFiGeS SPyA",
    "D pUMB FORWhD;HjD-CUP FIVwFiGeS SPyAD?OPr;HjD-HiGE.;HjD-OVl FIVwFiGeS SPyAD;HjD-FLAT FIVwFi",
    "GeS SPyAD HiGED@pUMB tDE@NO pUMB;HjD-FLAT<BETWEr PlM FACiGS<HEEL<pUMB tDE<HEEL pUMB tDE<pUM",
    "B BrT=FORWhD<SPLIT iDEX pUMB tDE=CrTy>pUMB tDE@BrT=LITTf;HjD-CLAW<pUMB tDE<NO pUMB<pUMB FOR",
    "WhD;HjD-HOOK CURLICUE;HjD-HOOK;HjD-CUP OPr;HjD-CUP<OPr pUMB tDE<pUMB tDE<OPr NO pUMB<NO pUM",
    "B<OPr pUMB FORWhD<pUMB FORWhD;HjD-CURLICUwOPr;HjD-CURLICUE;HjD-CIRCf;HjD-OVl<pUMB tDE<NO pU",
    "MB<pUMB FORWhD;HjD-HiGwOPr=pUMB FORWhD;HjD-HiGE<d<OPr pUMB tDE<pUMB tDE<OPr NO pUMB<NO pUMB",
    "<pUMB tDwTOUCHiG iDEX=BETWEr MIDDf RiG;HjD-jGf;HjD-FIST iDEX MIDDf RiG;HjD-CIRCf.;HjD-HiGE.",
    ";HjD-jGf.;HjD-HiGwLITTf;HjD-FIST iDEX MIDDf RiG BrT?CkJOiED;HjD-HiGE.;HjD-FIST LITTf xWN>RI",
    "PPf STRAg?CURVED>OpeS CIRCfD=UP<pUMB UNDe LITTf UP;HjD-CIRCf LITTf UP;HjD-OVl.;HjD-jGf.;HjD",
    "-FIST LITTf RAISoKNUCKf=BrT=TOUCHES pUMB=pUMB;HjD-HiGE.;HjD-FIST LITTf iDEX pUMB;HjD-HiGE.;",
    "HjD-jGf LITTf iDEX pUMB iDEX pUMB OUT@pUMB;HjD-FIST LITTf iDEX;HjD-CIRCf.;HjD-HiGE.;HjD-jGf",
    ".;HjD-FIST iDEX MIDDf LITTf;HjD-CIRCf.;HjD-HiGE.<RiG;HjD-jGf iDEX MIDDf LITTf;HjD-FIST iDE",
    "X MIDDf CROSS LITTf;HjD-CIRCf.;HjD-FIST RiG xWN;HjD-HiGwRiG xWN iDEX pUMB HOOK MIDDf;HjD-jG",
    "f RiG xWN MIDDf pUMB iDEX CROSS;HjD-FIST RiG UP=RAISoKNUCKf=LITTf;HjD-CIRCf.;HjD-OVl.;HjD-j",
    "Gf.;HjD-FIST RiG MIDDf>CkJOiED>RAISoKNUCKfS=iDEX=pUMB;HjD-HOOK.;HjD-FIST iDEX RiG LITTf;HjD",
    "-CIRCf.;HjD-CURLICUwiDEX RiG LITTf k;HjD-HOOK iDEX RiG LITTf OUT?i?UNDe;HjD-CUP iDEX RiG LI",
    "TTf;HjD-HiGE.;HjD-jGf iDEX RiG LITTf OUT>LITTf;HjD-FIST MIDDf xWN;HjD-HiGwMIDDf;HjD-FIST MI",
    "DDf UP;HjD-CIRCf.;HjD-FIST MIDDf RAISoKNUCKf=UP pUMB tDE;HjD-HOOK MIDDf pUMB;HjD-FIST MIDD",
    "f pUMB LITTf=LITTf=RiG LITTf;HjD-CIRCf.;HjD-CURLICUwMIDDf RiG LITTf k;HjD-CUP MIDDf RiG LIT",
    "Tf;HjD-HiGE.;HjD-jGf MIDDf RiG LITTf OUT?i>LITTf;HjD-CIRCf MIDDf RiG LITTf BrT;HjD-CLAW MID",
    "Df RiG LITTf CkJOiED@tDE;HjD-HOOK MIDDf RiG LITTf CkJOioOUT@i?CkJOiED;HjD-HiGwiDEX HiGED;Hj",
    "D-FIST iDEX pUMB tDE;HjD-HiGE.;HjD-FIST iDEX pUMB tDwpUMB DIAGkl@CkJOiED@BrT?iDEX.?BOp.?iDE",
    "X HiGE>FORWhD iDEX STRAg@BrT>HOOK>CURLICUE>CURVwpUMB itDE;HjD-CLAW.;HjD-FIST iDEX pUMB CURV",
    "wpUMB UNDe>CIRCf;HjD-CUP iDEX pUMB>OPr;HjD-HiGE.>LhGE=pUMB>d;HjD-jGf iDEX pUMB OUT>i=pUMB;H",
    "jD-FIST pUMB=HEEL=tDwDIAGkl>CkJOiED>BrT=FORWhD=BETWEr iDEX MIDDf>MIDDf RiG>RiG LITTf=UNDe T",
    "WO FiGeS=OVe.=UNDe pyE.>FOUR.=OVe FOUR RAISoKNUCKfS;HjD-FIST<HEEL;TOUCH SiGf<MULuPf<BETWEr;",
    "GRASP SiGf<MULuPf<BETWEr;STRIKwSiGf<MULuPf<BETWEr;BRUSH SiGf<MULuPf<BETWEr;RUB SiGf<MULuPf<",
    "BETWEr;SURFACwSYMBOLS<BETWEr;SQUEEZwLhGwSiGf<d.<LhGwMULuPf<d.<SEQUrul;FLICK LhGwSiGf<d.<LhG",
    "wMULuPf<d.<SEQUrul;SQUEEZwFLICK lTeNATiG;MOVEMrT-HiGwUP xWN LhGE>d=SEQUrul<xWN.<UP xWN lTeN",
    "ATiG LhGE?d<tDwTO tDwSCISSORS;MOVEMrT-WlLPLjwFiGe CkTACT;MOVEMrT-FLOORPLjE.;MOVEMrT-WlLPLjw",
    "SiGf STRAg d>MEDIUM>LhGE>LhGEST=WRIST FfX<xUBf STRAg=WRIST FfX=lTeNATiG>WRIST FfX<CROSS<TRI",
    "Pf STRAg MOVEMrT=WRIST FfX=lTeNATiG>WRIST FfX<BrD d=MEDIUM=LhGE<CORNe d=MEDIUM=LhGE=ROTAuk<",
    "CHECK d=MEDIUM=LhGE<BOX d=MEDIUM=LhGE<ZIGZAG d=MEDIUM=LhGE<PEAKS d=MEDIUM=LhGE;TRAVEL-WlLPL",
    "jwROTAuk-WlLPLjwSiGf=xUBf=lTeNATiG<ROTAuk-FLOORPLjwSiGf=xUBf=lTeNATiG<SvKiG<hM SPIRl SiGf>x",
    "UBf>TRIPf;MOVEMrT-DIAGkl AWAY d=MEDIUM=LhGE=LhGEST<TOs d=MEDIUM=LhGE=LhGEST<BETWEr AWAY d>M",
    "EDIUM>LhGE>LhGEST=TOs d>MEDIUM>LhGE>LhGEST;MOVEMrT-FLOORPLjwSiGf STRAg d>MEDIUM>LhGE>LhGEST",
    "=WRIST FfX<xUBf STRAg=WRIST FfX=lTeNATiG>WRIST FfX<CROSS<TRIPf STRAg MOVEMrT=WRIST FfX=lTeN",
    "ATiG MOVEMrT>WRIST FfX<BrD<CORNe d=MEDIUM=LhGE<CHECK<BOX d=MEDIUM=LhGE<ZIGZAG d=MEDIUM=LhGE",
    "<PEAKS d=MEDIUM=LhGE;TRAVEL-FLOORPLjwROTAuk-FLOORPLjwSiGf=xUBf=lTeNATiG<ROTAuk-WlLPLjwSiGf=",
    "xUBf=lTeNATiG<SvKiG;MOVEMrT-WlLPLjwCURVwQUhTe d>MEDIUM>LhGE>LhGEST=HlF-CIRCf d>MEDIUM>LhGE>",
    "LhGEST=pyE-QUhTe CIRCf d?MEDIUM<HUMP d=MEDIUM=LhGE<LOOP d=MEDIUM=LhGE=d xUBf<WAVwCURVwxUBf ",
    "d?MEDIUM?LhGE>TRIPf d?MEDIUM?LhGE<CURVwpr STRAg<CURVoCROSS d>MEDIUM;ROTAuk-WlLPLjwSiGf<xUBf",
    "<lTeNATE;MOVEMrT-WlLPLjwSvKiG<CURVwHITTiG FRkT WlL<HUMP.<LOOP.<WAVE.;ROTAuk-WlLPLjwSiGf.<xU",
    "Bf.<lTeNATiG.;MOVEMrT-WlLPLjwCURVwHITTiG CHEST<HUMP.<LOOP.<WAVE.;ROTAuk-WlLPLjwSiGf.<xUBf.<",
    "lTeNATiG.;MOVEMrT-WlLPLjwWAVwDIAGkl PAp d?MEDIUM?LhGE;MOVEMrT-FLOORPLjwCURVwHITTiG CEILiG d",
    "?LhGE<HUMP HITTiG CEILiG d xUBf?LhGE.?d TRIPf?LhGE.<LOOP HITTiG CEILiG d SiGf?LhGE.?d xUBf?",
    "LhGE.<WAVwHITTiG CEILiG d?LhGE;ROTAuk-FLOORPLjwSiGf HITTiG CEILiG<xUBf.<lTeNATiG.;MOVEMrT-F",
    "LOORPLjwCURVwHITTiG FLOOR d?LhGE<HUMP HITTiG FLOOR d xUBf?LhGE.?TRIPf d TRIPf@LhGE.<LOOP HI",
    "TTiG FLOOR d SiGf?LhGE.?d xUBf?LhGE.<WAVwHITTiG FLOOR d?LhGE;ROTAuk-FLOORPLjwSiGf HITTiG FL",
    "OOR<xUBf.<lTeNATiG.;MOVEMrT-FLOORPLjwCURVwd=MEDIUM=LhGE=LhGEST=COMBiED<HUMP d<LOOP.<WAVwSNA",
    "KE=d=LhGE;ROTAuk-FLOORPLjwSiGf<xUBf<lTeNATiG;MOVEMrT-FLOORPLjwSvKiG PhlfL;MOVEMrT-WlLPLjwh",
    "M CIRCf d SiGf>MEDIUM.>d xUBf>MEDIUM.;MOVEMrT-FLOORPLjwhM CIRCf HITTiG WlL d SiGf@MEDIUM.@L",
    "hGE.@d xUBf@MEDIUM.@LhGE.;MOVEMrT-WlLPLjwWRIST CIRCf FRkT SiGf?xUBf;MOVEMrT-FLOORPLjwWRIST ",
    "CIRCf HITTiG WlL SiGf@xUBf;MOVEMrT-WlLPLjwFiGe CIRCfS SiGf>xUBf;MOVEMrT-FLOORPLjwFiGe CIRCf",
    "S HITTiG WlL SiGf@xUBf;DYNAMIC hROWHEAD d=LhGE<FAST<SLOW<TrSE<yLAXED<tMULTjEOUS=lTeNATiG<EV",
    "eY Ope uME<GRADUl;HEAD<RIM<MOVEMrT-WlLPLjwSTRAg=uLT<MOVEMrT-FLOORPLjwSTRAg<MOVEMrT-WlLPLjwC",
    "URVE<MOVEMrT-FLOORPLjE.<MOVEMrT CIRCf;FACwDIyCuk POtuk NOSwFORWhD uLTiG?UP OR xWN@OR xWN uL",
    "TiG;EYEBROWS STRAg UP=NEUTRl=xWN;DyAMY EYEBROWS NEUTRl xWN=xWN NEUTRl=UP.=NEUTRl UP;FOyHEA",
    "D NEUTRl<CkTACT<WRiKfD;EYES OPr<SQUEEZED<CLOSED;EYwBLiK SiGf=MULuPf;EYES HlF OPr<WIDE.<HlF ",
    "CLOSED<WIDriG MOVEMrT;EYwWiK;EYELASHES UP<xWN<FLUTTeiG;EYEGAZE-WlLPLjwSTRAg=xUBf=lTeNATiG;E",
    "YEGAZE-FLOORPLjwSTRAg=xUBf=lTeNATiG;EYEGAZE-WlLPLjwCURVED;EYEGAZE-FLOORPLjE.;EYEGAZE-WlLPLj",
    "wCIRCLiG;CHEEKS PUFFED<NEUTRl<SUCKED;TrSwCHEEKS HIGH=MIDDf=LOW;EhS;NOSwNEUTRl<CkTACT<WRiKfS",
    "<WIGGfS;AIR BLOWiG OUT<SUCKiG i<BLOW d ROTAukS<SUCK.;ByAp ivf<EXvf;MOUp CLOSoNEUTRl=FORWhD=",
    "CkTACT<SMIf=WRiKfD=OPr<FROWN=WRiKfD=OPr<OPr CIRCf=FORWhD=WRiKfD=OVl>WRiKfD>YAWN=yCTjGf>WRiK",
    "fD>YAWN<KISS=FORWhD=WRiKfD<TrSE=FORWhD=SUCKED;LIPS PySSoTOGEpe;LIP LOWe OVe UPPe<UPPe OVe L",
    "OWe;MOUp CORNeS<WRiKfS SiGf=xUBf;TkGUwSuCKiG OUT Fh<LICKiG LIPS<uP BETWEr LIPS=TOUCHiG itDw",
    "MOUp<itDwMOUp yLAXED<MOVES AGAiST CHEEK<CrTRwSuCKiG OUT=itDwMOUp;TEEp<MOVEMrT<k TkGUE>MOVEM",
    "rT=LIPS>MOVEMrT<BITwLIPS;MOVEMrT-WlLPLjwJAW;MOVEMrT-FLOORPLjE.;NECK;vIR;EXCITEMrT;SHOULDe H",
    "IP SPiE=POtukS;WlLPLjwSHOULDe HIP MOVE;FLOORPLjE.;SHOULDe uLTiG FROM WAIST;TORSO-WlLPLjwSTR",
    "Ag STyTCH<CURVoBrD;TORSO-FLOORPLjwTWISTiG;UPPe BODY uLTiG FROM HIP JOiTS;LIMB COMBiAuk<fNGp",
    "-1<fNGp-2<fNGp-3<fNGp-4<fNGp-5<fNGp-6<fNGp-7;FiGe;LOCAuk-WlLPLjwSPACE;LOCAuk-FLOORPLjE.;LOC",
    "Auk HEg<WIDp<DEPp<HEAD NECK<TORSO<LIMBS DIGITS;COMMA;FULL STOP;SEMICOLk;COLk;PhrpEtS"]⟩,
  ⟨0x1DA9B, [
    ":tGNWRITiG FILL MODIFIe-2<MODIFIe-3<MODIFIe-4<MODIFIe-5<MODIFIe-6~;ROTAuk MODIFIe-2<MODIFIe",
    "-3<MODIFIe-4<MODIFIe-5<MODIFIe-6<MODIFIe-7<MODIFIe-8<MODIFIe-9<MODIFIe-10<MODIFIe-11<MODIFI",
    "e-12<MODIFIe-13<MODIFIe-14<MODIFIe-15<MODIFIe-16"]⟩,
  ⟨0x1DF00, [
    ":LATi d nFrG DIGRAPHcTRILL=yVeSoSCRIPT G;nd CAPITl TURNED.;d nyVeSoK;nd CAPITl LcBELT;d nfZ",
    "HcyTROFfX HOOK=TURNoYcBELT=yVeSorG=TURNoRcLkG fG jD yTROFfX HOOK=TcHOOK jD yTROFfX HOOK;nyT",
    "ROFfX CLICKcyTROFfX HOOK;d nESHcxUBf Bh@Bh jD CURL=TURNoTcCURL;niVeToGLOTTl STOP.<STyTCHoCc",
    "CURL<d CAPITl TURNoK;d nLcFISHHOOK=DEZH DIGRAPHcPlATl HOOK=LcBELT jD PlATl HOOK=rGcPlATl HO",
    "OK=TURNoRcPlATl HOOK=RcFISHHOOK jD PlATl HOOK=TESH DIGRAPHcPlATl HOOK=EZHcPlATl HOOK=DEZH D",
    "IGRAPHcyTROFfX HOOK=IcSTROKwjD yTROFfX HOOK=OcyTROFfX HOOK=TESH DIGRAPHcyTROFfX HOOK=CcyTRO",
    "FfX HOOK=ScCURL"]⟩,
  ⟨0x1E000, [
    ":COMBiiG GLAGOLIuC nAZU=BUKY=VEDE=GLAGOLI=xBRO=YESTU=ZHIVETE~=ZEMLJA=IZHE=iIul IZHE=I=DJeVI",
    "=KAKO=LJUDIJE=MYSLITE=NASHI=kU=POKOJI=RITt=SLOVO=TVRIx=UKU=FRITU=HeU~~=SHTA=Tt=CHRIVI=Sv=Ye",
    "U=YeI=YAu~=YU=d YUS~=YO=IOTATod YUS=BIG YUS=IOTAToBIG YUS=FITA"]⟩,
  ⟨0x1E100, [
    ":NYIAKrG PUACHUwHMkG nMA>TSA>NTA>TA>v>NA>XA>NKA>CA>LA>SA>ZA>NCA>NTSA>KA>DA>NYA>NRA>VA>NTXA>",
    "TXA>FA>RA>QA>YA>NQA>PA>XYA>NPA>DLA>NPLA>vH>MLA>PLA>GA>RRA>A>AA>I>U>O>OO>E>EE>W~~~=TkE-B=TkE",
    "-M=TkE-J=TkE-V=TkE-S=TkE-G=TkE-D=tGN FOR PeSk?piG?LOCAuk?jIMl?iVeTEBRATE>XW XW=SYLLABf fNGp",
    "re~~=DIGIT ZeO>kE>TWO>pyE>FOUR>FIVE>tX>SEVr>Eg>NiE~~~~=LOGOGRAM NYAJ=CIRCfD CA"]⟩,
  ⟨0x1E290, [
    ":TOTO nPA<BA<TA<DA<KA<GA<MA<NA<NGA<SA<Cv<YA<WA<JA<v<RA<LA<I<ByApY I<IU<ByApY IU<U<E<ByApY E",
    "<EO<ByApY EO<O<AE<ByApY AE<A;tGN RISiG TkE"]⟩,
  ⟨0x1E2C0, [
    ":WjCHO nAA<A<BA<CA<DA<GA<YA<Pv<LA<NA<PA<TA<pA<FA<SA<Sv<JA<ZA<WA<VA<KA<O<AU<RA<MA<Kv<v<E<I<N",
    "GA<U<LLv<TSA<TRA<kG<AjG<jG<iG<k<r<Aj<NYA<Ur<YIH;TkwTUP<TUPNI<KOI<KOiI;DIGIT ZeO<kE<TWO<pyE<",
    "FOUR<FIVE<tX<SEVr<Eg<NiE~~~~~;NGUN tGN"]⟩,
  ⟨0x1E7E0, [
    ":EpIOPIC SYLLABf HHYA<HHYU<HHYI<HHYAA<HHYEE<HHYE<HHYO~<GURAGwHHWA<HHWI<HHWEE<HHWE~<GURAGwMW",
    "I=MWEE~=QWI=QWEE=QWE=BWI=BWEE=KWI=KWEE=KWE=GWI=GWEE=GWE=FWI=FWEE=PWI=PWEE~:MrDwKIKAKUI SYLL",
    "ABf M001 KI=M002 KA=M003 KU=M065 KEE=M095 KE=M076 KOO=M048 KO=M179 KUA=M004 WI=M005 WA=M00",
    "6 WU=M126 WEE=M118 WE=M114 WOO=M045 WO=M194 WUI=M143 WEI=M061 WVI=M049 WVA=M139 WVE=M007 Mi",
    "=M008 Mj=M009 MUN=M059 Mr=M094 Mk=M154 MUj=M189 MUr=M010 BI=M011 BA=M012 BU=M150 BEE=M097 B",
    "E=M103 BOO=M138 BO=M013 I=M014 A=M015 U=M163 EE=M100 E=M165 OO=M147 O=M137 EI=M131 i=M135.=",
    "M195 j=M178 r=M019 t=M020 SA=M021 SU=M162 SEE=M116 SE=M136 SOO=M079 SO=M196 tA=M025 LI=M02",
    "6 LA=M027 LU=M084 fE=M073 f=M054 LOO=M153 LO=M110 LkG f=M016 DI=M017 DA=M018 DU=M089 DEE=M1",
    "80 xO=M181 x=M022 u=M023 TA=M024 TU=M091 TEE=M055 TE=M104 TOO=M069 TO=M028 JI=M029 JA=M030 ",
    "JU=M157 JEE=M113 JE=M160 JOO=M063 JO=M175 LkG JO=M031 YI=M032 YA=M033 YU=M109 YEE=M080 YE=M",
    "141 YOO=M121 YO=M034 FI=M035 FA=M036 FU=M078 FEE=M075 FE=M133 FOO=M088 FO=M197 FUA=M101 Fj=",
    "M037 Ni=M038 Nj=M039 NUN=M117 Nr=M169 Nk=M176 HI=M041 v=M186 HU=M040 HEE=M096 HE=M042 HOO=M",
    "140 HO=M083 HEEI=M128 HOOU=M053 Hi=M130 Hj=M087 HUN=M052 Hr=M193 Hk=M046 HUj=M090 NGGI=M04",
    "3 NGGA=M082 NGGU=M115 NGGEE=M146 NGGE=M156 NGGOO=M120 NGGO=M159 NGGAA=M127 NGGUA=M086 LkG N",
    "GGE=M106 LkG NGGOO=M183 LkG NGGO=M155 GI=M111 GA=M168 GU=M190 GEE=M166 GUEI=M167 GUj=M184 N",
    "Gr=M057 NGk=M177 NGUj=M068 PI=M099 PA=M050 PU=M081 PEE=M051 PE=M102 POO=M066 PO=M145 MBI=M0",
    "62 MBA=M122 MBU=M047 MBEE=M188.=M072 MBE=M172 MBOO=M174 MBO=M187 MBUU=M161 LkG MBE=M105 Lk",
    "G MBOO=M142 LkG MBO=M132 KPI=M092 KPA=M074 KPU=M044 KPEE=M108 KPE=M112 KPOO=M158 KPO=M124 G",
    "BI=M056 GBA=M148 GBU=M093 GBEE=M107 GBE=M071 GBOO=M070 GBO=M171 RA=M123 NDI=M129 NDA=M125 N",
    "DU=M191 NDEE=M119 NDE=M067 NxO=M064 Nx=M152 NJA=M192 NJU=M149 NJEE=M134 NJOO=M182 VI=M185 V",
    "A=M151 VU=M173 VEE=M085 VE=M144 VOO=M077 VO=M164 NYi=M058 NYj=M170 NYUN=M098 NYr=M060 NYk~~",
    "<DIGIT kE=TWO=pyE=FOUR=FIVE=tX=SEVr=Eg=NiE<COMBiiG NUMBe TErS>TrS>HUNDyDS>pOUSjDS>Tr pOUSjD",
    "S>HUNDyD.>MILLIkS"]⟩,
  ⟨0x1E900, [
    ":ADLAM zlIF=DAlI=LAAM=MIIM=BA=SiNYIIYHE=PE=BHE=RA=E=FA=I=O=Dv=YHE=WAW=NUN=KAF=YA=U=JIIM=CHI",
    "=v=QAAF=GA=NYA=TU=Nv=VA=Kv=GBE=Zl=KPO=Sv;d nlIF=DAlI=LAAM=MIIM=BA=SiNYIIYHE=PE=BHE=RA=E=FA=",
    "I=O=Dv=YHE=WAW=NUN=KAF=YA=U=JIIM=CHI=v=QAAF=GA=NYA=TU=Nv=VA=Kv=GBE=Zl=KPO=Sv;lIF fNGpre;VOW",
    "EL.;GEMiAuk MhK;vMZA;CkSkjT MODIFIe;GEMiATwCkSkjT MODIFIe;NUKTA;NASlIZAuk MhK~~~~;DIGIT ZeO",
    "<kE<TWO<pyE<FOUR<FIVE<tX<SEVr<Eg<NiE~~~~;iIul EXCLAMAuk MhK<QUESuk."]⟩,
  ⟨0x1EC71, [
    ":iDIC tYAQ NUMBe kE=TWO=pyE=FOUR=FIVE=tX=SEVr=Eg=NiE=Tr=TWrTY=pIRTY=FORTY=FIFTY=tXTY=SEVrTY",
    "=EgY=NiETY=kwHUNDyD=TWO.=pyE.=FOUR.=FIVE.=tX.=SEVr.=Eg.=NiE.=kwpOUSjD=TWO.=pyE.=FOUR.=FIVE.",
    "=tX.=SEVr.=Eg.=NiE.=Tr.=TWrTY.=pIRTY.=FORTY.=FIFTY.=tXTY.=SEVrTY.=EgY.=NiETY.=LAKH=LAKHj<LA",
    "KH MhK<NUMBe KhOR=KhORj=PyFIXokE>TWO>pyE>FOUR>FIVE>tX>SEVr>Eg>NiE<PLACEHOLDe<FRACuk kwQUhTe",
    ">HlF=pywQUhTeS<RUPEwMhK<NUMBe lTeNATwkE>TWO>Tr pOUSjD<lTeNATwLAKH MhK"]⟩,
  ⟨0x1ED01, [
    ":OTTOMj tYAQ NUMBe kE=TWO=pyE=FOUR=FIVE=tX=SEVr=Eg=NiE=Tr=TWrTY=pIRTY=FORTY=FIFTY=tXTY=SEVr",
    "TY=EgY=NiETY=kwHUNDyD=TWO.=pyE.=FOUR.=FIVE.=tX.=SEVr.=Eg.=NiE.=kwpOUSjD=TWO.=pyE.=FOUR.=FIV",
    "E.=tX.=SEVr.=Eg.=NiE.=Tr.=TWrTY.=pIRTY.=FORTY.=FIFTY.=tXTY.=SEVrTY.=EgY.=NiETY.<MhRATj<lTeN",
    "ATwNUMBe TWO>pyE>FOUR>FIVE>tX>SEVr>Eg>NiE>Tr>FOUR HUNDyD>tX.>TWO pOUSjD>Tr.<FRACuk kwHlF>tX",
    "p"]⟩,
  ⟨0x1EE00, [
    ":hABIC MApEMAuCl AfF<BEH<JEEM<Dl~<WAW<ZAi<vH<TAH<YEH<KAF<LAM<MEEM<NOk<SEr<Ai<FEH<SAD<QAF<yH",
    "<SHEr<TEH<pEH<KvH<pl<DAD<ZAH<Gvi<xTfSS BEH=NOk=FEH=QAF~<iIul BEH=JEEM~=HEH~~=vH~=YEH=KAF=LA",
    "M=MEEM=NOk=SEr=Ai=FEH=SAD=QAF~=SHEr=TEH=pEH=KvH~=DAD~=Gvi~~~~~~<TAIfD JEEM~~~~=vH~=YEH~=LAM",
    "~=NOk=SEr=Ai~=SAD=QAF~=SHEr~~=KvH~=DAD~=Gvi~=xTfSS NOk~>QAF~<STyTCHoBEH=JEEM~=HEH~~=vH=TAH=",
    "YEH=KAF~=MEEM=NOk=SEr=Ai=FEH=SAD=QAF~=SHEr=TEH=pEH=KvH~=DAD=ZAH=Gvi=xTfSS BEH~>FEH~<LOOPoAf",
    "F=BEH=JEEM=Dl=HEH=WAW=ZAi=vH=TAH=YEH~=LAM=MEEM=NOk=SEr=Ai=FEH=SAD=QAF=yH=SHEr=TEH=pEH=KvH=p",
    "l=DAD=ZAH=Gvi~~~~~<xUBf-STRUCK BEH=JEEM=Dl~=WAW=ZAi=vH=TAH=YEH~=LAM=MEEM=NOk=SEr=Ai=FEH=SAD",
    "=QAF=yH=SHEr=TEH=pEH=KvH=pl=DAD=ZAH=Gvi"]⟩,
  ⟨0x1EEF0, [
    ":hABIC MApEMAuCl OPeATOR MEEMcvHcTATWEEL=vHcDl"]⟩,
  ⟨0x1F000, [
    ":MAHJkG uf EAST WiD<SOUp.<WEST.<NORp.<RoDRAGk<Gyr.<WHITE.<kwOF CHhACTeS<TWO.<pyE.<FOUR.<FIV",
    "E.<tX.<SEVr.<Eg.<NiE.<kwOF BAMBOOS<TWO.<pyE.<FOUR.<FIVE.<tX.<SEVr.<Eg.<NiE.<kwOF CIRCfS<TWO",
    ".<pyE.<FOUR.<FIVE.<tX.<SEVr.<Eg.<NiE.<PLUM<ORCHID<BAMBOO<CHRYSjpEMUM<SPRiG<SUMMe<AUTUMN<WiT",
    "e<JOKe<BACK~~~~:xMiO uf HORIZkTl BACK<HORIZkTl-00-00<HORIZkTl-00-01<HORIZkTl-00-02<HORIZkTl",
    "-00-03<HORIZkTl-00-04<HORIZkTl-00-05<HORIZkTl-00-06<HORIZkTl-01-00<HORIZkTl-01-01<HORIZkTl-",
    "01-02<HORIZkTl-01-03<HORIZkTl-01-04<HORIZkTl-01-05<HORIZkTl-01-06<HORIZkTl-02-00<HORIZkTl-0",
    "2-01<HORIZkTl-02-02<HORIZkTl-02-03<HORIZkTl-02-04<HORIZkTl-02-05<HORIZkTl-02-06<HORIZkTl-03",
    "-00<HORIZkTl-03-01<HORIZkTl-03-02<HORIZkTl-03-03<HORIZkTl-03-04<HORIZkTl-03-05<HORIZkTl-03-",
    "06<HORIZkTl-04-00<HORIZkTl-04-01<HORIZkTl-04-02<HORIZkTl-04-03<HORIZkTl-04-04<HORIZkTl-04-0",
    "5<HORIZkTl-04-06<HORIZkTl-05-00<HORIZkTl-05-01<HORIZkTl-05-02<HORIZkTl-05-03<HORIZkTl-05-04",
    "<HORIZkTl-05-05<HORIZkTl-05-06<HORIZkTl-06-00<HORIZkTl-06-01<HORIZkTl-06-02<HORIZkTl-06-03<",
    "HORIZkTl-06-04<HORIZkTl-06-05<HORIZkTl-06-06<VeuCl BACK<VeuCl-00-00<VeuCl-00-01<VeuCl-00-02",
    "<VeuCl-00-03<VeuCl-00-04<VeuCl-00-05<VeuCl-00-06<VeuCl-01-00<VeuCl-01-01<VeuCl-01-02<VeuCl-",
    "01-03<VeuCl-01-04<VeuCl-01-05<VeuCl-01-06<VeuCl-02-00<VeuCl-02-01<VeuCl-02-02<VeuCl-02-03<V",
    "euCl-02-04<VeuCl-02-05<VeuCl-02-06<VeuCl-03-00<VeuCl-03-01<VeuCl-03-02<VeuCl-03-03<VeuCl-03",
    "-04<VeuCl-03-05<VeuCl-03-06<VeuCl-04-00<VeuCl-04-01<VeuCl-04-02<VeuCl-04-03<VeuCl-04-04<Veu",
    "Cl-04-05<VeuCl-04-06<VeuCl-05-00<VeuCl-05-01<VeuCl-05-02<VeuCl-05-03<VeuCl-05-04<VeuCl-05-0",
    "5<VeuCl-05-06<VeuCl-06-00<VeuCl-06-01<VeuCl-06-02<VeuCl-06-03<VeuCl-06-04<VeuCl-06-05<VeuCl",
    "-06-06"]⟩,
  ⟨0x1F0A0, [
    ":PLAYiG ChD BACK<ACwOF SPADES<TWO.<pyE.<FOUR.<FIVE.<tX.<SEVr.<Eg.<NiE.<Tr.<JACK.<KNg.<QUEr.",
    "<KiG.~~<ACwOF HEhTS<TWO.<pyE.<FOUR.<FIVE.<tX.<SEVr.<Eg.<NiE.<Tr.<JACK.<KNg.<QUEr.<KiG.<RoJO",
    "Ke~<ACwOF DIAMkDS<TWO.<pyE.<FOUR.<FIVE.<tX.<SEVr.<Eg.<NiE.<Tr.<JACK.<KNg.<QUEr.<KiG.<BLACK ",
    "JOKe~<ACwOF CLUBS<TWO.<pyE.<FOUR.<FIVE.<tX.<SEVr.<Eg.<NiE.<Tr.<JACK.<KNg.<QUEr.<KiG.<WHITwJ",
    "OKe<FOOL<TRUMP-1<TRUMP-2<TRUMP-3<TRUMP-4<TRUMP-5<TRUMP-6<TRUMP-7<TRUMP-8<TRUMP-9<TRUMP-10<T",
    "RUMP-11<TRUMP-12<TRUMP-13<TRUMP-14<TRUMP-15<TRUMP-16<TRUMP-17<TRUMP-18<TRUMP-19<TRUMP-20<TR",
    "UMP-21~~~~~~~~~~:DIGIT ZeO FULL STOP<COMMA;kE.;TWO.;pyE.;FOUR.;FIVE.;tX.;SEVr.;Eg.;NiE.:DiG",
    "BAT CIRCfD SjS-SeIF DIGIT ZeO;NEGAuVwCIRCfD SjS-SeIF DIGIT ZeO:CIRCfD ZeOcSLASH;juCLOCKWISw",
    "hROW;xLLh tGNcOVeLAID BACKSLASH:PhrpEtZoLATi zA>B>C>D>E>F>G>H>I>J>K>L>M>N>O>P>Q>R>S>T>U>V>W",
    ">X>Y>Z:TORTOISwSHELL BRACKEToLATi zS:CIRCfD ITlIC LATi zC?R;CD;WZ:COPYfFT SYMBOL:SQUhoLATi ",
    "zA>B>C>D>E>F>G>H>I>J>K>L>M>N>O>P>Q>R>S>T>U>V>W>X>Y>Z;HV;MV;SD;SS;PPV;WC:NEGAuVwCIRCfD LATi ",
    "zA?B?C?D?E?F?G?H?I?J?K?L?M?N?O?P?Q?R?S?T?U?V?W?X?Y?Z:RAISoMC tGN;MD.;MR.:CIRCfD CC;CcOVeLAI",
    "D BACKSLASH;HUMj FIGUy:NEGAuVwSQUhoLATi zA?B?C?D?E?F?G?H?I?J?K?L?M?N?O?P?Q?R?S?T?U?V?W?X?Y?",
    "Z:CROSSoNEGAuVwSQUhoLATi zP:NEGAuVwSQUhoIC<PA<SA<AB<WC:SQUhwDJ:SQUhoCL;COOL;FyE;ID;NEW;NG;O",
    "K;SOS;UPcEXCLAMAuk MhK;VS;pywD;SECkD SCyr;TWO K;FOUR.;Eg.;FIVwPOiT kE;SEVr.;TWrTY-TWO POiT ",
    "TWO;tXTY P;kwHUNDRoTWrTY P;LATi d nD;HC;HDR;HI-yS;LOSSfSS;SHV;UHD;VOD:MASK WORK SYMBOL"]⟩,
  ⟨0x1F1E6, [
    ":yGIkl iDICATOR SYMBOL nA>B>C>D>E>F>G>H>I>J>K>L>M>N>O>P>Q>R>S>T>U>V>W>X>Y>Z:SQUhwHIRAGjA HO",
    "KA:SQUhoKATAKjA KOKO<SA"]⟩,
  ⟨0x1F210, [
    ":SQUhoCJK UNIFIoIDEOGRAPH-624B=IDEOGRAPH-5B57=IDEOGRAPH-53CC;KATAKjA DE;CJK UNIFIoIDEOGRAPH",
    "-4E8C=IDEOGRAPH-591A=IDEOGRAPH-89E3=IDEOGRAPH-5929=IDEOGRAPH-4EA4=IDEOGRAPH-6620=IDEOGRAPH-",
    "7121=IDEOGRAPH-6599=IDEOGRAPH-524D=IDEOGRAPH-5F8C=IDEOGRAPH-518D=IDEOGRAPH-65B0=IDEOGRAPH-5",
    "21D=IDEOGRAPH-7D42=IDEOGRAPH-751F=IDEOGRAPH-8CA9=IDEOGRAPH-58F0=IDEOGRAPH-5439=IDEOGRAPH-6F",
    "14=IDEOGRAPH-6295=IDEOGRAPH-6355=IDEOGRAPH-4E00=IDEOGRAPH-4E09=IDEOGRAPH-904A=IDEOGRAPH-5DE",
    "6=IDEOGRAPH-4E2D=IDEOGRAPH-53F3=IDEOGRAPH-6307=IDEOGRAPH-8D70=IDEOGRAPH-6253=IDEOGRAPH-7981",
    "=IDEOGRAPH-7A7A=IDEOGRAPH-5408=IDEOGRAPH-6E80=IDEOGRAPH-6709=IDEOGRAPH-6708=IDEOGRAPH-7533=",
    "IDEOGRAPH-5272=IDEOGRAPH-55B6=IDEOGRAPH-914D~~~~:TORTOISwSHELL BRACKEToCJK UNIFIoIDEOGRAPH-",
    "672C?IDEOGRAPH-4E09?IDEOGRAPH-4E8C?IDEOGRAPH-5B89?IDEOGRAPH-70B9?IDEOGRAPH-6253?IDEOGRAPH-7",
    "6D7?IDEOGRAPH-52DD?IDEOGRAPH-6557~~~~~~~:CIRCfD IDEOGRAPH ADVjTAGE<ACCEPT"]⟩,
  ⟨0x1F260, [
    ":ROUNDoSYMBOL FOR FU=LU=SHOU=XI=SHUjGXI=CAI"]⟩,
  ⟨0x1F300, [
    ":CYCLkE:FOGGY:CLOSoUMByLLA:NgcSThS:SUNRISwOVe MOUNTAiS:SUNRISE:CITYSCAPwAT DUSK:SUNSET OVe ",
    "BUILDiGS:RAiBOW:BRIDGwAT Ng:WATe WAVE:VOLCjO:MILKY WAY:Ehp GLOBwEUROPE-AFRICA<AMeICAS<AtA-A",
    "USTRlIA:GLOBEcMeIDIjS:NEW MOk SYMBOL:WAXiG CySCrT MOk SYMBOL:FIRST QUhTe.:WAXiG GIBBOUS.:FU",
    "LL MOk SYMBOL:WjiG GIBBOUS MOk SYMBOL:LAST QUhTe.:WjiG CySCrT.:CySCrT MOk:NEW MOkcFACE:FIRS",
    "T QUhTe MOkcFACE:LAST.:FULL MOkcFACE:SUNcFACE:GLOWiG STh:SHOOTiG.:peMOMETe:BLACK DROPfT:WHI",
    "TwSUN<WIp d CLOUD<BEHiD CLOUD>WIp RAi:CLOUDcRAi<SNOW<LgNiG<TORNAx:FOG:WiD BLOWiG FACE:HOT x",
    "G:TACO:BURRITO:CHESTNUT:SEEDLiG:EVeGyr TyE:DECIDUOUS.:PlM.:CACTUS:HOT PEPPe:TULIP:CHeRY BLO",
    "SSOM:ROSE:HIBISCUS:SUNFLOWe:BLOSSOM:Eh OF MAIZE<RICE:HeB:FOUR fAF CLOVe:MAPf fAF:FlfN.:fAF ",
    "FLUTTeiG i WiD:MUSHROOM:TOMATO:AUBeGiE:GRAPES:MELk:WATeMELk:TjGeiE:fMk:BjjA:PiEAPPf:RoAPPf:",
    "Gyr.:PEh:PEACH:CHeRIES:STRAWBeRY:vMBURGe:SLICwOF PIZZA:MEAT k BkE:POULTRY fG:RICwCRACKe;BlL",
    ":COOKoRICE:CURRY jD RICE:STEAMiG BOWL:SPAGHETu:ByAD:FRrCH FRIES:ROASToSWEET POTATO:DjGO:ODr",
    ":SUSHI:FRIoSHRIMP:FISH CAKEcSWIRL DEtGN:SOFT ICwCyAM:SvVoICE:ICwCyAM:xUGHNUT:COOKIE:CHOCOLA",
    "TwBh:CjDY:LOLLIPOP:CUSThD:HkEY POT:SHORTCAKE:BrTO BOX:POT OF FOOD:COOKiG:FORK jD KNIFE:TEAC",
    "UP WIpOUT HjDf:SAKwBOTTf jD CUP:WiwGLASS:COCKTAIL.:TROPICl DRiK:BEe MUG:CLiKiG BEe MUGS:BAB",
    "Y BOTTf:FORK jD KNIFEcPLATE:BOTTfcPOPPiG CORK:POPCORN:RIBBk:WRAPPoPySrT:BIRpDAY CAKE:JACK-O",
    "-LjTeN:CHRISTMAS TyE:FApe CHRISTMAS:FIyWORKS:FIyWORK SPhKLe:BlLOk:PhTY POPPe:CkFETu BlL:TjA",
    "BATA TyE:CROSSoFLAGS:PiwDECORAuk:JAPjESwxLLS:ChP STyAMe:WiD CHIME:MOk VIEWiG CeEMkY:SCHOOL ",
    "SATCHEL:GRADUAuk CAP:HEhTcuP k pwfFT:BOUQUET OF FLOWeS:MILIThY MEDl:yMiDe RIBBk:MUtCl KEYBO",
    "hDcJACKS:STUDIO MICROPHkE:fVEL SLIDe:CkTROL KNOBS:BEAMoASCrDiG MUtCl NOTES;DESCrDiG.:FILM F",
    "RAMES:ADMIStk uCKETS:ChOUSEL HORSE:FeRIS WHEEL:ROLLe COASTe:FISHiG POf jD FISH:MICROPHkE:MO",
    "VIwCAMeA:CiEMA:HEADPHkE:huST PAfTTE:TOP vT:CIRCUS TrT:uCKET:CLAPPe BOhD:PeFORMiG hTS:VIDEO ",
    "GAME:DIyCT HIT:SLOT MACHiE:BILLIhDS:GAMwDIE:BOWLiG:FLOWe PLAYiG ChDS:MUtCl NOTE:MULuPf MUtC",
    "l NOTES:SAXOPHkE:GUITh:MUtCl KEYBOhD:TRUMPET:VIOLi:MUtCl SCOy:RUNNiG SHIRTcSASH:TrNIS RACQU",
    "ET jD BlL:SKI jD SKI BOOT:BASKETBlL jD HOOP:CHEQUeoFLAG:SNOWBOhDe:RUNNe:SURFe:SPORTS MEDl:T",
    "ROPHY:HORSwRACiG:AMeICj FOOTBlL:RUGBY.:SWIMMe:WEg LIFTe:GOLFe:RACiG MOTORCYCf;Ch:CRICKET BA",
    "T jD BlL:VOLfYBlL:FIELD HOCKEY SuCK jD BlL:ICwHOCKEY SuCK jD PUCK:TABf TrNIS PADDf jD BlL:S",
    "NOW CAPPoMOUNTAi:CAMPiG:BEACHcUMByLLA:BUILDiG CkSTRUCuk:HOUSwBUILDiGS:CITYSCAPE:DeELICT HOU",
    "SwBUILDiG:CLAStCl BUILDiG:DESeT;ISLjD:NAukl PhK:STADIUM:HOUSwBUILDiG;WIp GhDr:OFFICwBUILDiG",
    ":JAPjESwPOST OFFICE:EUROPEj.:HOSPITl:BjK:AUTOMAToTELLe MACHiE:HOTEL:LOVwHOTEL:CkVrIrCwSTOy:",
    "SCHOOL:DEPhTMrT STOy:FACTORY:IZAKAYA LjTeN:JAPjESwCASTf:EUROPEj.:WHITwPrNjT:BLACK.:WAViG WH",
    "ITwFLAG;BLACK.:ROSETTE:BLACK ROSETTE:LABEL:BADMiTk RACQUET jD SHUTTfCOCK:BOW jD hROW:AMPHOR",
    "A:EMOJI MODIFIe FITZPATRICK TYPE-1-2=TYPE-3=TYPE-4=TYPE-5=TYPE-6:RAT:MOUSE:OX:WATe BUFFlO:C",
    "OW:uGe:fOPhD:RABBIT:CAT:DRAGk:CROCODIf:Wvf:SNAIL:SNAKE:HORSE:RAM:GOAT:SHEEP:MkKEY:ROOSTe:CH",
    "ICKr:xG:PIG:BOh:EfPHjT:OCTOPUS:SPIRl SHELL:BUG:jT:HkEYBEE:LADY BEETf:FISH:TROPICl FISH:BLOW",
    "FISH:TURTf:vTCHiG CHICK:BABY.:FRkT-FACiG BABY CHICK:BIRD:PrGUi:KOlA:POODf:DROMEDhY CAMEL:BA",
    "CTRIj.:xLPHi:MOUSwFACE:COW.:uGe.:RABBIT.:CAT.:DRAGk.:SPOUTiG Wvf:HORSwFACE:MkKEY.:xG.:PIG.:",
    "FROG.:vMSTe.:WOLF.:BEh.:PjDA.:PIG NOSE:PAW PRiTS:CHIPMUNK:EYES:EYE:Eh:NOSE:MOUp:TkGUE:WHITw",
    "UP POiTiG BACKHjD iDEX;xWN.;fFT.;Rg.:FISToHjD tGN:WAViG.:OK.:pUMBS UP.;xWN.:CLAPPiG HjDS.:O",
    "Pr.:CROWN:WOMjS vT:EYEGLASSES:NECKuE:T-SHIRT:JEjS:DySS:KIMkO:BIKiI:WOMjS CLOpES:PURSE:HjDBA",
    "G:POUCH:MjS SHOE:ApfuC.:HIGH-HEEfD.:WOMjS SjDl;BOOTS:FOOTPRiTS:BUST i tLHOUETTE:BUSTS.:BOY:",
    "GIRL:Mj:WOMj:FAMILY:Mj jD WOMj HOLDiG HjDS:TWO Mr HOLDiG HjDS;WOMr.:POLICwOFFICe:WOMjcBUNN",
    "Y EhS:BRIDEcVEIL:PeSkcBLkD vIR:MjcGUA PI MAO<TURBj:OLDe Mj;WOMj:BABY:CkSTRUCuk WORKe:PRiCES",
    "S:JAPjESwOGy;GOBLi:GHOST:BABY jGEL:EXTRATeySTRIl lIr:lIr MkSTe:IMP:SKULL:iFORMAuk DESK PeSk",
    ":GUhDSMj:DjCe:LIPSuCK:NAIL POLISH:FACwMASSAGE:vIRCUT:BhBe POf:SYRiGE:PILL:KISS MhK:LOVwfTTe",
    ":RiG:GEM STkE:KISS:BOUQUET:COUPfcHEhT:WEDDiG:BEATiG HEhT:BROKr.:TWO HEhTS:SPhKLiG HEhT:GROW",
    "iG.:HEhTchROW:BLUwHEhT:Gyr.:YELLOW.:PURPf.:HEhTcRIBBk:yVOLViG HEhTS:HEhT DECORAuk:DIAMkD Sv",
    "PEcA xT itDE:EfCTRIC Lg BULB:jGe SYMBOL:BOMB:SfEPiG SYMBOL:COLLItk.:SPLASHiG SWEAT SYMBOL:D",
    "ROPfT:DASH SYMBOL:PIf OF POO:FfXoBICEPS:DIZZY SYMBOL:SPEECH BlLOk:pOUGHT.:WHITwFLOWe:HUNDRo",
    "POiTS SYMBOL:MkEY BAG:CURRrCY EXCHjGE:HEAVY xLLh tGN:CyDIT ChD:BjKNOTEcYr tGN<xLLh.<EURO.<P",
    "OUND.:MkEYcWiGS:CHhTcUPs TRrD jD Yr tGN:SEAT:PeSkl COMPUTe:BRIEFCASE:MiIDISC:FLOPPY DISK:OP",
    "uCl DISC:DVD:FIf FOLDe:OPr FIf FOLDe:PAGEcCURL;FACiG UP:CAfNDh:TEh-OFF CAfNDh:ChD iDEX:CHhT",
    "cUPs TRrD<xWNs.:Bh CHhT:CLIPBOhD:PUSHPi:ROUND PUSHPi:PAPeCLIP:STRAg RULe:TRIjGULh.:BOOKMhK ",
    "TABS:fDGe:NOTEBOOK;WIp DECORAuVwCOVe:CLOSoBOOK:OPr.:Gyr.:BLUE.:ORjGE.:BOOKS:NAMwBADGE:SCROL",
    "L:MEMO:TEfPHkwyCEIVe:PAGe:FAX MACHiE:SATELLITwjTrNA:PUBLIC ADDySS LOUDSPEAKe:CHEeiG MEGAPHk",
    "E:OUTBOX TRAY:iBOX.:PACKAGE:E-MAIL SYMBOL:iCOMiG rVELOPE:rVELOPEcxWNs hROWq:CLOSoMAILBOXcLO",
    "WeoFLAG=RAISED.:OPr.=LOWeED.:POSTBOX:POSTl HORN:NEWSPAPe:MOBIf PHkE<WIp Rgs hROW AT fFT:VIB",
    "RAuk MODE:MOBIf PHkwOFF:NO MOBIf PHkES:jTrNAcBhS:CAMeA;WIp FLASH:VIDEO CAMeA:TEfVItk:RADIO:",
    "VIDEOCASSETTE:FILM PROJECTOR:PORTABf STeEO:PRAYe BEADS:TWISToRgs hROWS:CLOCKWISwRgs jD fFT",
    "s OPr CIRCf hROWS@hROWScCIRCfD kwOVeLAY;xWNs jD UPs OPr CIRCf hROWS:juCLOCKWISE.:LOW BRgNES",
    "S SYMBOL:HIGH.:SPEAKecCjCELLAuk STROKE:SPEAKe;WIp kwSOUND WAVE<pywSOUND WAVES:BATTeY:EfCTRI",
    "C PLUG:fFT-POiTiG MAGNIFYiG GLASS:Rg-POiTiG.:LOCKciK Pr:CLOSoLOCKcKEY:KEY:LOCK:OPr LOCK:BEL",
    "L;WIp CjCELLAuk STROKE:BOOKMhK:LiK SYMBOL:RADIO BUTTk:BACKcfFTs hROWq:rD.:kcEXCLAMAuk MhKcf",
    "FT Rg hROWq:SOkcRgs hROWq:TOPcUPs.:NO kwUNDe EgEr SYMBOL:KEYCAP Tr:iPUT SYMBOL FOR LATi beS",
    ">d.=NUMBeS=SYMBOLS=LATi fTTeS:FIy:EfCTRIC TORCH:WRrCH:vMMe:NUT jD BOLT:HOCHO:PISTOL:MICROSC",
    "OPE:TEfSCOPE:CRYSTl BlL:tX POiToSThcMIDDf xT:JAPjESwSYMBOL FOR BEGiNe:TRIDrT EMBfM:BLACK SQ",
    "UhwBUTTk:WHITE.:LhGwRoCIRCf;BLUE.;ORjGwDIAMkD;BLUE.:d ORjGE.;BLUE.:UP-POiTiG RoTRIjGf:xWN-P",
    "OiTiG.:UP-POiTiG d RoTRIjGf:xWN-POiTiG.:LOWe Rg SvxWoWHITwCIRCf:UPPe.:CIRCfD CROSS POMMEE:C",
    "ROSS POMMEEcHlF-CIRCf BELOW;POMMEE:NOTCHofFT SEMICIRCfcpywxTS;Rg.:SYMBOL FOR MhKS CvPTe:WHI",
    "TwLATi CROSS:HEAVY.:CELuC CROSS:OM SYMBOL:xVwOF PEACE:KAABA:MOSQUE:SYNAGOGUE:MrORAHcNiwBRjC",
    "HES:BOWL OF HYGIEIA:CLOCK FACwkwOCLOCK<TWO.<pyE.<FOUR.<FIVE.<tX.<SEVr.<Eg.<NiE.<Tr.<EfVr.<T",
    "WELVE.<kE-pIRTY<TWO-pIRTY<pyE-pIRTY<FOUR-pIRTY<FIVE-pIRTY<tX-pIRTY<SEVr-pIRTY<Eg-pIRTY<NiE-",
    "pIRTY<Tr-pIRTY<EfVr-pIRTY<TWELVE-pIRTY:Rg SPEAKe<WIp kwSOUND WAVE=pywSOUND WAVES:BULLHORN;W",
    "Ip SOUND WAVES:RiGiG BELL:BOOK:CjDf:MjTELPIECwCLOCK:BLACK SKULL jD CROSSBkES:NO PIRACY:HOf:",
    "Mj i BUSiESS SUIT fVITATiG:SfUp OR SPY:DhK SUNGLASSES:SPIDe;WEB:JOYSuCK:Mj DjCiG:fFT HjD TE",
    "fPHkwyCEIVe:TEfPHkwyCEIVecPAGE:Rg HjD TEfPHkwyCEIVe:WHITwTOUCHTkwTEfPHkE:BLACK.:TEfPHkwk TO",
    "P OF MODEM:CLAMSHELL MOBIf PHkE:BACK OF rVELOPE:STAMPorVELOPE:rVELOPEcLgNiG:FLYiG rVELOPE:P",
    "r OVe STAMPorVELOPE:LiKoPAPeCLIPS:BLACK PUSHPi:LOWe fFT PrCIL<BlLPOiT Pr<FOUNTAi.<PAiTBRUSH",
    "<CRAYk:fFT WRITiG HjD:TURNoOK HjD tGN:RAISoHjDcFiGeS SPLAYED:yVeSoRAISoHjDcFiGeS SPLAYED;pU",
    "MBS UP tGN<xWN.;VICTORY HjD;HjDcMIDDf FiGe EXTrDED:RAISoHjDcPhT BETWEr MIDDf jD RiG FiGeS:W",
    "HITwxWN POiTiG fFT HjD iDEX:tDEWAYS WHITwfFT POiTiG iDEX<Rg.;BLACK fFT.<Rg.:BLACK fFT POiTi",
    "G BACKHjD.;Rg.:tDEWAYS WHITwUP POiTiG.<xWN.;BLACK UP.<xWN.:BLACK UP POiTiG BACKHjD.;xWN.;HE",
    "hT:DESKTOP COMPUTe:KEYBOhD jD MOUSE:pywNETWORKoCOMPUTeS:PRiTe:POCKET ClCULATOR:BLACK HhD SH",
    "ELL FLOPPY DISK:WHITE.:SOFT SHELL FLOPPY DISK:TAPwChTRIDGE:WIRoKEYBOhD:kwBUTTk MOUSE:TWO.:p",
    "yE.:TRACKBlL:OLD PeSkl COMPUTe:HhD DISK:SCyr:PRiTe ICk:FAX.:OPuCl DISC ICk:xCUMrTcTEXT=jD P",
    "ICTUy<PICTUy:FRAME.<ufS<j X:BLACK FOLDe:FOLDe:OPr FOLDe:ChD iDEX DIVIDeS;FIf BOX:FIf CABiET",
    ":EMPTY NOTE<PAGE<PAD:NOTE;PAGE;PAD:EMPTY xCUMrT;PAGE;PAGES:xCUMrT:PAGE:PAGES:WASTEBASKET:SP",
    "IRl NOTwPAD;CAfNDh.:DESKTOP WixW:MiIMIZE:MAXIMIZE:OVeLAP:CLOCKWISwRg jD fFT SEMICIRCf hROWS",
    ":CjCELLAuk X:iCyASwFkT tZwSYMBOL:DECyASE.:COMPyStk:OLD KEY:ROLfD-UP NEWSPAPe:PAGEcCIRCfD TE",
    "XT:STOCK CHhT:DAGGe KNIFE:LIPS:SPEAKiG HEAD i tLHOUETTE:pywRAYSq<BELOW<fFT<Rg:fFT SPEECH BU",
    "BBf:Rg.:TWO SPEECH BUBBfS:pyE.:fFT pOUGHT BUBBf:Rg.:fFT jGe.:Rg.:MOOD BUBBf:LgNiG MOOD BUBB",
    "f;MOOD:BlLOT BOXcBlLOT;SCRIPT X;BOXcSCRIPT X;BOLD SCRIPT X;BOXcBOLD SCRIPT X:Lg CHECK MhK:B",
    "lLOT BOXcBOLD CHECK:WORLD MAP:MOUNT FUJI:TOKYO TOWe:STATUwOF LIBeTY:tLHOUETTwOF JAPj:MOYAI:",
    "GRiNiG FACE<WIp SMILiG EYES:FACEcTEhS OF JOY:SMILiG FACEcOPr MOUp?jD SMILiG EYES@COLD SWEAT",
    "@TgLY-CLOSoEYES=HlO=HORNS:WiKiG FACE:SMILiG FACEcSMILiG EYES:FACwSAVOURiG DELICIOUS FOOD:yL",
    "IEVoFACE:SMILiG FACEcHEhT-SvPoEYES=SUNGLASSES:SMIRKiG FACE:NEUTRl.:EXPyStkfSS.:UNAMUSED.:FA",
    "CEcCOLD SWEAT:PrtVwFACE:CkFUSED.:CkFOUNDED.:KISSiG.:FACwpROWiG A KISS:KISSiG FACEcSMILiG EY",
    "ES=CLOSED.:FACEcSTUCK-OUT TkGUE>jD WiKiG EYE?TgLY-CLOSoEYES:DISAPPOiToFACE:WORRIED.:jGRY.:P",
    "OUTiG.:CRYiG.:PeSEVeiG.:FACEcLOOK OF TRIUMPH:DISAPPOiToBUT yLIEVoFACE:FROWNiG FACEcOPr MOUp",
    ":jGUISHoFACE:FEhFUL.:WEhY.:SfEPY.:uyD.:GRIMACiG.:LOUDLY CRYiG FACE:FACEcOPr MOUp:HUSHoFACE:",
    "FACEcOPr MOUp jD COLD SWEAT;SCyAMiG i FEh:ASTkISHoFACE:FLUSHED.:SfEPiG.:DIZZY.:FACwWIpOUT M",
    "OUp;WIp MEDICl MASK:GRiNiG CAT FACEcSMILiG EYES:CAT FACEcTEhS OF JOY:SMILiG CAT FACEcOPr MO",
    "Up>HEhT-SvPoEYES:CAT FACEcWRY SMIf:KISSiG CAT FACEcCLOSoEYES:POUTiG CAT FACE:CRYiG.:WEhY.:S",
    "LgLY FROWNiG.;SMILiG.:UPtDE-xWN FACE:FACEcROLLiG EYES<NO GOOD GESTUy<OK GESTUy:PeSk BOWiG D",
    "EEPLY:SEE-NO-EVIL MkKEY:HEh-NO-EVIL.:SPEAK-NO-EVIL.:vPPY PeSk RAISiG kwHjD:PeSk RAISiG BOp ",
    "HjDS i CEfBRAuk;FROWNiG;WIp POUTiG FACE<FOLDoHjDS:NORp WEST POiTiG fAF:SOUp.:NORp EAST.:SOU",
    "p.:TURNoNORp WEST POiTiG fAF;SOUp.;NORp EAST.;SOUp.:NORp WEST POiTiG ViE.:SOUp.:NORp EAST.:",
    "SOUp.:HEAVY NORp WEST POiTiG ViwfAF;SOUp.;NORp EAST.;SOUp.:NORp WEST POiTiG BUD:SOUp.:NORp ",
    "EAST.:SOUp.:HEAVY NORp WEST POiTiG BUD;SOUp.;NORp EAST.;SOUp.:HOLLOW QUILT SQUhwORNAMrT>i B",
    "LACK SQUhE:SOLID QUILT SQUhwORNAMrT>i BLACK SQUhE:fFTs ROCKET:UPs.:Rgs.:xWNs.:SCRIPT LIGATU",
    "RwET ORNAMrT:HEAVY SCRIPT LIGATURwET ORNAMrT:LIGATURwOPr ET ORNAMrT:HEAVY LIGATURwOPr ET OR",
    "NAMrT;AMPeSjD ORNAMrT:SWASH.:SjS-SeIF HEAVY xUBf TURNoCOMMA QUOTAuk MhK ORNAMrT=COMMA QUOTA",
    "uk MhK ORNAMrT<LOW xUBf COMMA QUOTAuk MhK ORNAMrT:HEAVY iTeROBjG ORNAMrT:SjS-SeIF.:HEAVY Sj",
    "S-SeIF iTeROBjG ORNAMrT:VeY HEAVY SOLIDUS<yVeSwSOLIDUS:CHECKe BOhD:yVeSwCHECKe BOhD:ROCKET:",
    "HELICOPTe:STEAM LOCOMOuVE:RAILWAY Ch:HIGH-SPEoTRAi<WIp BULfT NOSE:TRAi:METRO:Lg RAIL:STAuk:",
    "TRAM;Ch:BUS:kCOMiG BUS:TROLfYBUS:BUS STOP:MiIBUS:AMBULjCE:FIRwrGiE:POLICwCh:kCOMiG POLICwCh",
    ":TAXI:kCOMiG TAXI:AUTOMOBIf:kCOMiG AUTOMOBIf:yCyAukl VEHICf:DELIVeY TRUCK:huCULAToLORRY:TRA",
    "CTOR:MkORAIL:MOUNTAi RAILWAY:SUSPrtk.:MOUNTAi CABfWAY:AeIl TRAMWAY:SHIP:ROWBOAT:SPEEDBOAT:H",
    "ORIZkTl TRAFFIC Lg:VeuCl.:CkSTRUCuk tGN:POLICwChS yVOLViG Lg:TRIjGULh FLAG k POST:xOR:NO rT",
    "RY tGN:SMOKiG SYMBOL:NO SMOKiG SYMBOL:PUT LITTe i ITS PLACwSYMBOL:x NOT LITTe SYMBOL:POTAB",
    "f WATe SYMBOL:Nk-POTABf.:BICYCf:NO BICYCfS:BICYCLIST:MOUNTAi BICYCLIST:PEDESTRIj:NO PEDESTR",
    "IjS:CHILDRr CROSSiG:MrS SYMBOL:WOMrS.:ySTROOM:BABY SYMBOL:TOIfT:WATe CLOSET:SHOWe:BAp:BApTU",
    "B:PASSPORT CkTROL:CUSTOMS:BAGGAGwCLAIM:fFT LUGGAGE:TRIjGfcROUNDoCORNeS:PROHIBITotGN:CIRCfD ",
    "iFORMAuk SOURCE:BOYS SYMBOL:GIRLS.:COUCH jD LAMP:SfEPiG ACCOMMODAuk:SHOPPiG BAGS:BELLHOP BE",
    "LL:BED:PLACwOF WORSHIP:OCTAGkl tGN:SHOPPiG TROLfY:STUPA:PAGODA:HiDU TEMPf:HUT:EfVATOR~~~~~:",
    "PLAYGROUND SLIDE:WHEEL:RiG BUOY:vMMe jD WRrCH:SHIELD:OIL DRUM:MOTORWAY:RAILWAY TRACK:MOTOR ",
    "BOAT:UP-POiTiG MILIThY AIRPLjE;AIRPLjE;d AIRPLjE:d AIRPLjE:NORpEAST-POiTiG.:AIRPLjwDEPhTUy;",
    "hRIViG~~~:SATELLITE:kCOMiG FIRwrGiE:DIESEL LOCOMOuVE:PASSrGe SHIP:SCOOTe:MOTOR SCOOTe:CjOE:",
    "SfD:FLYiG SAUCe:SKATEBOhD:AUTO RICKSvW:PICKUP TRUCK:ROLLe SKATE~~~:lCHEMICl SYMBOL FOR QUiT",
    "ESSrCE=AIR=FIy=Ehp=WATe=AQUAFORuS=AQUA yGIA>yGIA-2>VITAE>VITAE-2=ViEGh=ViEGh-2=ViEGh-3=SULF",
    "UR=PHILOSOPHeS SULFUR=BLACK.=MeCURY SUBLIMATE>SUBLIMATE-2>SUBLIMATE-3=CiNABh=SlT=NITy=VITRI",
    "OL=VITRIOL-2=ROCK SlT>SlT-2=GOLD=tLVe=IRk Oy>Oy-2=CROCUS OF IRk=yGULUS.=COPPe Oy=IRk-COPPe.",
    "=SUBLIMATwOF COPPe=CROCUS.?COPPe-2=COPPe juMkIATE=SlT OF COPPe juMkIATE=SUBLIMATwOF SlT OF ",
    "COPPe=VeDIGRIS=Ti Oy=fAD.=juMkY.=SUBLIMATwOF juMkY=SlT.=SUBLIMATwOF SlT OF juMkY=ViEGh OF j",
    "uMkY=yGULUS.?juMkY-2=yGULUS=yGULUS-2=yGULUS-3=yGULUS-4=lKlI=lKlI-2=MhCAtTE=Sl-AMMkIAC=hSrIC",
    "=ylGh=ylGh-2=AURIPIGMrT=BISMUp Oy=ThTh=ThTh-2=QUICK LIME=BORAX=BORAX-2=BORAX-3=lUM=OIL=SPIR",
    "IT=TiCTUy=GUM=WAX=POWDe=ClX=TUTTY=CAPUT MORTUUM=SCEPTe OF JOVE=CADUCEUS=TRIDrT=SThRoTRIDrT=",
    "LODESTkE=SOAP=URiE=HORSwDUNG=ASHES=POT ASHES=BRICK=POWDeoBRICK=AMlGAM=STRATUM SUPe STRATUM?",
    "STRATUM-2=SUBLIMAuk=PyCIPITATE=DISuLL=DISSOLVE=DISSOLVE-2=PURIFY=PUTyFACuk=CRUCIBf=CRUCIBf-",
    "2=CRUCIBf-3=CRUCIBf-4=CRUCIBf-5=AfMBIC=BAp OF MhY?VAPOURS=yTORT=HOUR=Ng=DAY-Ng=Mkp=HlF DRAM",
    ">OUNCE"]⟩,
  ⟨0x1F780, [
    ":BLACK fFT-POiTiG ISOSCEfS Rg TRIjGf;UP-POiTiG.;Rg-POiTiG.;xWN-POiTiG.;SLgLY d CIRCf:MEDIU",
    "M BOLD WHITE.:BOLD WHITwCIRCf:HEAVY.:VeY HEAVY WHITwCIRCf:EXTyMELY.:WHITwCIRCf CkTAiiG BLAC",
    "K d CIRCf:ROUND ThGET:BLACK TiY SQUhE;SLgLY d SQUhE:Lg WHITwSQUhE:MEDIUM.:BOLD.:HEAVY.:VeY ",
    "HEAVY WHITwSQUhE:EXTyMELY.:WHITwSQUhwCkTAiiG BLACK VeY d SQUhE>MEDIUM SQUhE:SQUhwThGET:BLAC",
    "K TiY DIAMkD;VeY d DIAMkD;MEDIUM.:WHITwDIAMkD CkTAiiG BLACK VeY d DIAMkD>MEDIUM DIAMkD:DIAM",
    "kD ThGET:BLACK TiY LOZrGE;VeY d LOZrGE;MEDIUM.:WHITwLOZrGwCkTAiiG BLACK d LOZrGE:pi GyEK CR",
    "OSS:Lg.:MEDIUM.:BOLD.:VeY BOLD GyEK CROSS;HEAVY.:EXTyMELY.:pi Sluy:Lg.:MEDIUM.:BOLD.:HEAVY.",
    ":VeY HEAVY Sluy:EXTyMELY.:Lg FIVwSPOKoASTeISK:MEDIUM.:BOLD.:HEAVY.:VeY HEAVY FIVwSPOKoASTeI",
    "SK:EXTyMELY.:Lg tX SPOKoASTeISK:MEDIUM.:BOLD.:HEAVY.:VeY HEAVY tX SPOKoASTeISK:EXTyMELY.:L",
    "g Eg SPOKoASTeISK:MEDIUM.:BOLD.:HEAVY.:VeY HEAVY Eg SPOKoASTeISK:Lg pywPOiToBLACK STh:MEDIU",
    "M.:pywPOiToBLACK STh:MEDIUM pywPOiToPiWHEEL STh:Lg FOUR POiToBLACK.:MEDIUM.:FOUR POiToBLAC",
    "K STh:MEDIUM FOUR POiToPiWHEEL STh:yVeSwLg FOUR POiToPiWHEEL STh:Lg FIVwPOiToBLACK STh:HEAV",
    "Y.:MEDIUM tX.:HEAVY.:tX POiToPiWHEEL STh:MEDIUM Eg POiToBLACK STh:HEAVY.:VeY HEAVY Eg POiTo",
    "BLACK STh:HEAVY Eg POiToPiWHEEL STh:Lg TWELVwPOiToBLACK.:HEAVY.=PiWHEEL.:CIRCfD TRIjGf:NEGA",
    "uVwCIRCfD TRIjGf:CIRCfD SQUhE:NEGAuVwCIRCfD SQUhE~~~~~~~:LhGwORjGwCIRCf;YELLOW.;Gyr.;PURPf.",
    ";BROWN.;RoSQUhE;BLUE.;ORjGE.;YELLOW.;Gyr.;PURPf.;BROWN.~~~~:HEAVY EQUlS tGN"]⟩,
  ⟨0x1F800, [
    ":fFTs hROWcd TRIjGf hROWHEAD:UPs.:Rgs.:xWNs.:fFTs hROWcMEDIUM.:UPs.:Rgs.:xWNs.:fFTs hROWcLh",
    "GE.:UPs.:Rgs.:xWNs.~~~~:fFTs hROWcd EQUILATel.:UPs.:Rgs.:xWNs.:fFTs hROWcEQUILATel hROWHEAD",
    ":UPs.:Rgs.:xWNs.:HEAVY fFTs hROWcEQUILATel hROWHEAD;UPs.;Rgs.;xWNs.;fFTs hROWcLhGwEQUILATe",
    "l hROWHEAD;UPs.;Rgs.;xWNs.:fFTs TRIjGf-HEADohROWcNhROW SvFT:UPs.:Rgs.:xWNs.:fFTs TRIjGf-HEA",
    "DohROWcMEDIUM.:UPs.:Rgs.:xWNs.:fFTs TRIjGf-HEADohROWcBOLD.:UPs.:Rgs.:xWNs.:fFTs TRIjGf-HEAD",
    "ohROWcHEAVY.:UPs.:Rgs.:xWNs.:fFTs TRIjGf-HEADohROWcVeY HEAVY SvFT:UPs.:Rgs.:xWNs.:fFTs FiGe",
    "-POST hROW:UPs.:Rgs.:xWNs.:fFTs SQUhED.:UPs.:Rgs.:xWNs.:fFTs COMPySSED.:UPs.:Rgs.:xWNs.:fFT",
    "s HEAVY COMPySSohROW:UPs.:Rgs.:xWNs.:fFTs HEAVY hROW:UPs.:Rgs.:xWNs.~~~~~~~~:fFTs SjS-SeIF.",
    ":UPs.:Rgs.:xWNs.:NORp WEST SjS-SeIF hROW;EAST.:SOUp.;WEST.:fFT Rg.:UP xWN.~~~~~~:WIDE-HEADo",
    "fFTs Lg BhB hROW;UPs.;Rgs.;xWNs.;NORp WEST Lg BhB hROW<EAST.;SOUp.<WEST.;fFTs BhB hROW;UPs.",
    ";Rgs.;xWNs.;NORp WEST BhB hROW<EAST.;SOUp.<WEST.;fFTs MEDIUM.;UPs.;Rgs.;xWNs.;NORp WEST MED",
    "IUM BhB hROW<EAST.;SOUp.<WEST.;fFTs HEAVY BhB hROW;UPs.;Rgs.;xWNs.;NORp WEST HEAVY BhB hROW",
    "<EAST.;SOUp.<WEST.;fFTs VeY.;UPs.;Rgs.;xWNs.;NORp WEST VeY HEAVY BhB hROW<EAST.;SOUp.<WEST.",
    "~~~~~~~~:fFTs TRIjGf hROWHEAD:UPs.:Rgs.:xWNs.:fFTs WHITwhROW WIpi TRIjGf hROWHEAD:UPs.:Rgs.",
    ":xWNs.:fFTs hROWcNOTCHoTAIL:UPs.:Rgs.:xWNs.:HEAVY hROW SvFT WIDp kE>TWO pIRDS>kwHlF?pIRD:fF",
    "Ts BOTTOM-SvDoWHITwhROW:Rgs BOTTOM SvDoWHITwhROW:fFTs TOP.:Rgs.:fFTs fFT-SvDoWHITwhROW:Rgs ",
    "Rg-SvDED.:fFTs.:Rgs fFT-SvDED.:fFTs BACK-uLToSvxWoWHITwhROW:Rgs.:fFTs FRkT-uLTED.:Rgs.:WHIT",
    "whROW SvFT WIDp kE>TWO pIRDS~~:hROW POiTiG UPs pr NORp WEST<Rgs pr CURViG SOUp WEST"]⟩,
  ⟨0x1F900, [
    ":CIRCfD CROSS FORMEEcFOUR xTS>TWO.<FORMEE:fFT HlF CIRCfcFOUR xTS>pyE.>TWO.>xT<CIRCf:xWNWhD ",
    "FACiG HOOK<NOTCHoHOOK<HOOKcxT<NOTCHoHOOKcxT:PiCHoFiGeS:WHITwHEhT:BROWN.:PiCHiG HjD:ZIPPe-MO",
    "Up FACE:MkEY-MOUp.:FACEcpeMOMETe:NeD FACE:piKiG.:FACEcHEAD-BjDAGE:ROBOT FACE:HUGGiG.:tGN O",
    "F pwHORNS:ClL MwHjD:RAISoBACK OF HjD:fFT-FACiG FIST:Rg-FACiG.:HjDSvKE:HjDciDEX jD MIDDf FiG",
    "eS CROSSED:I LOVwYOU HjD tGN:FACEcCOWBOY vT:CLOWN FACE:NAUSEATED.:ROLLiG k pwFLOOR LAUGHiG:",
    "DROOLiG FACE:LYiG.:FACwPlM:SNEEZiG FACE:FACEckwEYEBROW RAISED:GRiNiG FACEcSTh EYES=kwLhGwj",
    "D kwd EYE:FACEcFiGe COVeiG CLOSoLIPS:SeIOUS FACEcSYMBOLS COVeiG MOUp:SMILiG FACEcSMILiG EYE",
    "S jD HjD COVeiG MOUp:FACEcOPr MOUp VOMITiG:SHOCKoFACEcEXPLODiG HEAD:PyGNjT WOMj:ByAST-FEEDi",
    "G:PlMS UP TOGEpe:SELFIE:PRiCE:Mj i TUXEx:MOpe CHRISTMAS:SHRUG:PeSk xiG ChTWHEEL:JUGGLiG:FrC",
    "e:MODeN PrTApLk:WySTLeS:WATe POLO:HjDBlL:DIViG MASK:WILToFLOWe:DRUMcDRUMSuCKS:CLiKiG GLASSE",
    "S:TUMBLe GLASS:SPOk:GOl NET:RIFf:FIRST PLACwMEDl:SECkD.:pIRD.:BOXiG GLOVE:Mhul hTS UNIFORM:",
    "CURLiG STkE:LACROSSwSuCK jD BlL:SOFTBlL:FLYiG DISC:CROISSjT:AVOCAx:CUCUMBe:BACk:POTATO:ChRO",
    "T:BAGUETTwByAD:Gyr SlAD:SHlLOW Pj OF FOOD:STUFFoFLATByAD:EGG:GLASS OF MILK:PEjUTS:KIWIFRUIT",
    ":PjCAKES:DUMPLiG:FORTUNwCOOKIE:TAKEOUT BOX:CHOPSuCKS:BOWLcSPOk:CUPcSTRAW:COCkUT:BROCCOLI:PI",
    "E:PyTZEL:CUT OF MEAT:SjDWICH:CjNoFOOD:fAFY Gyr:MjGO:MOk CAKE:BAGEL:SMILiG FACEcSMILiG EYES ",
    "jD pywHEhTS:YAWNiG FACE:SMILiG FACEcTEh:FACEcPhTY HORN jD PhTY vT<UNEVr EYES jD WAVY MOUp:O",
    "VeHEAToFACE:FyEZiG.:NiJA:DISGUISoFACE:FACwHOLDiG BACK TEhS;WIp PfADiG EYES:ShI:LAB COAT:GOG",
    "GfS:HIKiG BOOT:FLAT SHOE:CRAB:LIk FACE:SCORPIk:TURKEY:UNICORN FACE:EAGf:DUCK:BAT:SHhK:OWL:F",
    "OX FACE:BUTTeFLY:DEe:GORILLA:LIZhD:RHiOCeOS:SHRIMP:SQUID:GIRAFFwFACE:ZEBRA.:HEDGEHOG:SAUROP",
    "OD:T-yX:CRICKET:KjGhOO:LLAMA:PEACOCK:HIPPOPOTAMUS:PhROT:RACCOk:LOBSTe:MOSQUITO:MICROBE:BADG",
    "e:SWj:MAMMOp:xx:SLOp:OTTe:ORjGUTj:SKUNK:FLAMiGO:OYSTe:BEAVe:BISk:SEl:GUIDwxG:PROBiG CjE:EMO",
    "JI COMPkrT RovIR<CURLY.<BlD<WHITwvIR:BkE:fG:FOOT:TOOp:SUPeHeO:SUPeVILLAi:SAFETY VEST:EhcHEh",
    "iG AID:MOTORIZoWHEELCvIR:MjUl.:MECHjICl hM;fG:CHEESwWEDGE:CUPCAKE:SlT SvKe:BEVeAGwBOX:GhLIC",
    ":kIk:FlAFEL:WAFFf:BUTTe:MATwDRiK:ICwCUBE:BUBBf TEA:TROLL:STjDiG PeSk:KNEELiG.:DEAF.:FACEcMk",
    "OCf:ADULT:CHILD:OLDe ADULT:BEhDoPeSk:PeSkcHEADSChF;i STEAMY ROOM;CLIMBiG;i LOTUS POtuk:MAGE",
    ":FAIRY:VAMPIy:MePeSk:ELF:GrIE:ZOMBIE:BRAi:ORjGwHEhT:BILfD CAP:SChF:GLOVES:COAT:SOCKS:RoGIF",
    "T rVELOPE:FIyCRACKe:JIGSAW PUZZf PIECE:TEST TUBE:PETRI DISH:DNA xUBf HELIX:COMPASS:ABACUS:F",
    "IRwEXTiGUISHe:TOOLBOX:BRICK:MAGNET:LUGGAGE:LOuk BOTTf:SPOOL OF pyAD:BlL OF YhN:SAFETY Pi:TE",
    "DDY BEh:BROOM:BASKET:ROLL OF PAPe:Bh OF SOAP:SPkGE:yCEIPT:NAZh AMUfT:NEUTRl CHESS KiG<QUEr<",
    "ROOK<BISHOP<KNg<PAWN:WHITwCHESS KNg ROTAToFORTY-FIVwDEGyES:BLACK.:NEUTRl.:WHITwCHESS KiG RO",
    "TAToNiETY.<QUEr.<ROOK.<BISHOP.<KNg.<PAWN.:BLACK CHESS KiG.<QUEr.<ROOK.<BISHOP.<KNg.<PAWN.:N",
    "EUTRl CHESS KiG.<QUEr.<ROOK.<BISHOP.<KNg.<PAWN.:WHITwCHESS KNg ROTATokwHUNDRopIRTY-FIVwDEGy",
    "ES:BLACK.:NEUTRl.:WHITwCHESS TURNoKiG=QUEr=ROOK=BISHOP=KNg=PAWN:BLACK CHESS TURNoKiG=QUEr=R",
    "OOK=BISHOP=KNg=PAWN:NEUTRl CHESS TURNoKiG=QUEr=ROOK=BISHOP=KNg=PAWN:WHITwCHESS KNg ROTAToTW",
    "O HUNDRoTWrTY-FIVwDEGyES:BLACK.:NEUTRl.:WHITwCHESS KiG ROTAToTWO HUNDRoSEVrTY.<QUEr.<ROOK.<",
    "BISHOP.<KNg.<PAWN.:BLACK CHESS KiG.<QUEr.<ROOK.<BISHOP.<KNg.<PAWN.:NEUTRl CHESS KiG.<QUEr.<",
    "ROOK.<BISHOP.<KNg.<PAWN.:WHITwCHESS KNg ROTATopywHUNDRoFIFTEr.:BLACK.:NEUTRl.:WHITwCHESS EQ",
    "UIHOPPe:BLACK.:NEUTRl.:WHITwCHESS EQUIHOPPe ROTAToNiETY DEGyES:BLACK.:NEUTRl.:WHITwCHESS KN",
    "g-QUEr<KNg-ROOK<KNg-BISHOP:BLACK CHESS KNg-QUEr<KNg-ROOK<KNg-BISHOP"]⟩,
  ⟨0x1FA60, [
    ":XIjGQI RoGrel<MjDhi<EfPHjT<HORSE<CHhIOT<CjNk<SOLDIe;BLACK Grel<MjDhi<EfPHjT<HORSE<CHhIOT<C",
    "jNk<SOLDIe~~:BlfT SHOES:kE-PIECwSWIMSUIT:BRIEFS:SHORTS:pkG SjDl~~~:DROP OF BLOOD:ADHEtVwBjD",
    "AGE:STEpOSCOPE:X-RAY:CRUTCH~~~:YO-YO:KITE:PhACHUTE:BOOMejG:MAGIC WjD:PiATA:NESTiG xLLS~~~~~",
    "~~~~:RiGoPLjET:CvIR:RAZOR:AXE:DIYA LAMP:BjJO:MILIThY HELMET:ACCORDIk:LkG DRUM:COi:ChPrTRY S",
    "AW:SCyWDRIVe:LADDe:HOOK:MIRROR:WixW:PLUNGe:SEWiG NEEDf:KNOT:BUCKET:MOUSwTRAP:TOOpBRUSH:HEAD",
    "STkE:PLAChD:ROCK:MIRROR BlL:IDruFICAuk ChD:LOW BATTeY:vMSA~~~:FLY:WORM:BEETf:COCKROACH:POTT",
    "oPLjT:WOOD:FEApe:LOTUS:CORl:EMPTY NEST:NESTcEGGS~~~~~:jATOMICl HEhT:LUNGS:PEOPf HUGGiG:PyGN",
    "jT Mj;PeSk:PeSkcCROWN~~~~~~~~~~:BLUEBeRIES:BELL PEPPe:OLIVE:FLATByAD:TAMAf:FkDUE:TEAPOT:POU",
    "RiG LIQUID:BEjS:Jh~~~~~~:MELTiG FACE:SlUTiG.:FACEcOPr EYES jD HjD OVe MOUp<PEEKiG EYE<DIAGk",
    "l MOUp:xTToLiwFACE:BITiG LIP:BUBBfS~~~~~~~~:HjDciDEX FiGe jD pUMB CROSSED:Rgs HjD:fFTs.:Pl",
    "M xWN HjD;UP.:iDEX POiTiG AT pwVIEWe:HEhT HjDS~~~~~~~~~:BLOCK SEXTjT-1;SEXTjT-2;SEXTjT-12;S",
    "EXTjT-3;SEXTjT-13;SEXTjT-23;SEXTjT-123;SEXTjT-4;SEXTjT-14;SEXTjT-24;SEXTjT-124;SEXTjT-34;SE",
    "XTjT-134;SEXTjT-234;SEXTjT-1234;SEXTjT-5;SEXTjT-15;SEXTjT-25;SEXTjT-125;SEXTjT-35;SEXTjT-23",
    "5;SEXTjT-1235;SEXTjT-45;SEXTjT-145;SEXTjT-245;SEXTjT-1245;SEXTjT-345;SEXTjT-1345;SEXTjT-234",
    "5;SEXTjT-12345;SEXTjT-6;SEXTjT-16;SEXTjT-26;SEXTjT-126;SEXTjT-36;SEXTjT-136;SEXTjT-236;SEXT",
    "jT-1236;SEXTjT-46;SEXTjT-146;SEXTjT-1246;SEXTjT-346;SEXTjT-1346;SEXTjT-2346;SEXTjT-12346;SE",
    "XTjT-56;SEXTjT-156;SEXTjT-256;SEXTjT-1256;SEXTjT-356;SEXTjT-1356;SEXTjT-2356;SEXTjT-12356;S",
    "EXTjT-456;SEXTjT-1456;SEXTjT-2456;SEXTjT-12456;SEXTjT-3456;SEXTjT-13456;SEXTjT-23456:LOWe f",
    "FT BLOCK DIAGkl LOWe MIDDf fFT TO LOWe CrTy@fFT TO LOWe Rg>UPPe MIDDf fFT TO LOWe CrTy@fFT ",
    "TO LOWe Rg?fFT TO LOWe CrTy;Rg BLOCK DIAGkl UPPe MIDDf fFT TO UPPe CrTy@fFT TO UPPe Rg>LOW",
    "e MIDDf fFT TO UPPe CrTy@fFT TO UPPe Rg?fFT TO UPPe CrTy?MIDDf fFT TO UPPe MIDDf Rg?CrTRwT",
    "O LOWe MIDDf Rg?fFT.?CrTRwTO UPPe.?fFT.?CrTRwTO UPPe Rg;fFT BLOCK DIAGkl UPPe CrTRwTO UPPe ",
    "MIDDf Rg?fFT.?CrTRwTO LOWe.?fFT.?CrTRwTO LOWe Rg?MIDDf fFT TO LOWe MIDDf Rg:UPPe Rg BLOCK D",
    "IAGkl LOWe MIDDf fFT TO LOWe CrTy@fFT TO LOWe Rg>UPPe MIDDf fFT TO LOWe CrTy@fFT TO LOWe Rg",
    "?fFT TO LOWe CrTy;fFT BLOCK DIAGkl UPPe MIDDf fFT TO UPPe CrTy@fFT TO UPPe Rg>LOWe MIDDf fF",
    "T TO UPPe CrTy@fFT TO UPPe Rg?fFT TO UPPe CrTy?MIDDf fFT TO UPPe MIDDf Rg?CrTRwTO LOWe MIDD",
    "f Rg?fFT.?CrTRwTO UPPe.?fFT.?CrTRwTO UPPe Rg;Rg BLOCK DIAGkl UPPe CrTRwTO UPPe MIDDf Rg?fFT",
    ".?CrTRwTO LOWe.?fFT.?CrTRwTO LOWe Rg?MIDDf fFT TO LOWe MIDDf Rg;jD Rg jD LOWe TRIjGULh pywQ",
    "UhTeS BLOCK:fFT jD LOWe jD Rg.:UPPe jD fFT jD LOWe.:fFT jD UPPe jD Rg.;TRIjGULh kwQUhTe BLO",
    "CK:UPPe.:Rg.:LOWe.:VeuCl kwEgH BLOCK-2=BLOCK-3=BLOCK-4=BLOCK-5=BLOCK-6=BLOCK-7:HORIZkTl kwE",
    "gH BLOCK-2=BLOCK-3=BLOCK-4=BLOCK-5=BLOCK-6=BLOCK-7:fFT jD LOWe kwEgH BLOCK<UPPe.:Rg.<LOWe.:",
    "UPPe.:HORIZkTl kwEgH BLOCK-1358:UPPe kwQUhTe BLOCK;pywEgHS.;FIVE.;pywQUhTeS.;SEVr EgHS.:Rg ",
    "kwQUhTe.;pywEgHS.;FIVE.;pywQUhTeS.;SEVr EgHS.:fFT HlF MEDIUM SvDE:Rg.:UPPe.:LOWe.:iVeSwMEDI",
    "UM SvDE:UPPe HlF BLOCK jD LOWe HlF iVeSwMEDIUM SvDE<iVeSwMEDIUM SvDwjD LOWe HlF BLOCK~:fFT ",
    "HlF iVeSwMEDIUM SvDwjD Rg.:CHECKe BOhD FILL:iVeSwCHECKe BOhD FILL:HEAVY HORIZkTl FILL:UPPe ",
    "fFT TO LOWe Rg FILL;Rg TO LOWe fFT.;jD LOWe TRIjGULh HlF BLOCK:fFT jD Rg.:UPPe fFT TRIjGUL",
    "h MEDIUM SvDE;Rg.:LOWe.;fFT.:BOX DRAWiGS Lg DIAGkl UPPe CrTRwTO MIDDf fFT@TO MIDDf Rg>MIDD",
    "f fFT TO LOWe CrTy?Rg.>UPPe CrTRwTO MIDDf fFT TO LOWe CrTy@TO MIDDf Rg.>MIDDf fFT TO LOWe C",
    "rTRwTO MIDDf Rg@TO UPPe.>UPPe CrTRwTO MIDDf fFT jD MIDDf Rg TO LOWe CrTy@TO MIDDf Rg jD MID",
    "Df fFT.@TO MIDDf Rg TO LOWe CrTRwTO MIDDf fFT@TO MIDDf fFT TO LOWe CrTRwTO MIDDf Rg>MIDDf f",
    "FT TO UPPe CrTRwTO MIDDf Rg TO LOWe CrTy?Rg TO UPPe CrTRwTO MIDDf fFT.>DIAMkD=HORIZkTlcVeuC",
    "l STROKE:hROWHEAD-SvPoPOiTe:iVeSwCHECK MhK:fFT HlF RUNNiG Mj:Rg.:iVeSwxWNs hROWcuP fFTs:fFT",
    "s hROW jD UPPe jD LOWe kwEgH BLOCK:Rgs.:xWNs hROW jD Rg kwEgH BLOCK:UPs.:fFT HlF FOLDe:Rg.:",
    "VOIDoGyEK CROSS:Rg OPr SQUhoxT:NEGAuVwDIAGkl CROSS<MIDDf Rg TO LOWe CrTy<DIAMkD:WHITwHEAVY ",
    "SluycROUNDoCORNeS:fFT pIRD WHITwRg POiTiG iDEX:MIDDf.:Rg.:NEGAuVwSQUhoQUESuk MhK:SuCK FIGUy",
    "<WIp hMS RAISED<fjiG fFT=Rg<WIp DySS:WHITwUP-POiTiG CHEVRk"]⟩,
  ⟨0x1FBF0, [
    ":SEGMrToDIGIT ZeO<kE<TWO<pyE<FOUR<FIVE<tX<SEVr<Eg<NiE"]⟩,
  ⟨0xE0001, [
    ":LjGUAGwTAG"]⟩,
  ⟨0xE0020, [
    ":TAG SPACE;EXCLAMAuk MhK;QUOTAuk.;NUMBe tGN;xLLh.;PeCrT.;AMPeSjD;APOSTROPHE;fFT PhrpEtS;Rg.",
    ";ASTeISK;PLUS tGN;COMMA;HYPHr-MiUS;FULL STOP;SOLIDUS;DIGIT ZeO<kE<TWO<pyE<FOUR<FIVE<tX<SEVr",
    "<Eg<NiE;COLk;SEMICOLk;fSS-pj tGN;EQUlS.;GyATe-pj.;QUESuk MhK;COMMeCIl AT;LATi zA>B>C>D>E>F>",
    "G>H>I>J>K>L>M>N>O>P>Q>R>S>T>U>V>W>X>Y>Z;fFT SQUhwBRACKET;yVeSwSOLIDUS;Rg SQUhwBRACKET;CIRCU",
    "MFfX ACCrT;LOW LiE;GRAVwACCrT;LATi d nA>B>C>D>E>F>G>H>I>J>K>L>M>N>O>P>Q>R>S>T>U>V>W>X>Y>Z;f",
    "FT CURLY BRACKET;VeuCl LiE;Rg CURLY BRACKET;uLDE:CjCEL TAG"]⟩,
  ⟨0xE0100, [
    ":VhIAuk m17;m18;m19;m20;m21;m22;m23;m24;m25;m26;m27;m28;m29;m30;m31;m32;m33;m34;m35;m36;m37",
    ";m38;m39;m40;m41;m42;m43;m44;m45;m46;m47;m48;m49;m50;m51;m52;m53;m54;m55;m56;m57;m58;m59;m6",
    "0;m61;m62;m63;m64;m65;m66;m67;m68;m69;m70;m71;m72;m73;m74;m75;m76;m77;m78;m79;m80;m81;m82;m",
    "83;m84;m85;m86;m87;m88;m89;m90;m91;m92;m93;m94;m95;m96;m97;m98;m99;m100;m101;m102;m103;m104",
    ";m105;m106;m107;m108;m109;m110;m111;m112;m113;m114;m115;m116;m117;m118;m119;m120;m121;m122;",
    "m123;m124;m125;m126;m127;m128;m129;m130;m131;m132;m133;m134;m135;m136;m137;m138;m139;m140;m",
    "141;m142;m143;m144;m145;m146;m147;m148;m149;m150;m151;m152;m153;m154;m155;m156;m157;m158;m1",
    "59;m160;m161;m162;m163;m164;m165;m166;m167;m168;m169;m170;m171;m172;m173;m174;m175;m176;m17",
    "7;m178;m179;m180;m181;m182;m183;m184;m185;m186;m187;m188;m189;m190;m191;m192;m193;m194;m195",
    ";m196;m197;m198;m199;m200;m201;m202;m203;m204;m205;m206;m207;m208;m209;m210;m211;m212;m213;",
    "m214;m215;m216;m217;m218;m219;m220;m221;m222;m223;m224;m225;m226;m227;m228;m229;m230;m231;m",
    "232;m233;m234;m235;m236;m237;m238;m239;m240;m241;m242;m243;m244;m245;m246;m247;m248;m249;m2",
    "50;m251;m252;m253;m254;m255;m256"]⟩]

end FieldSchema.Text
