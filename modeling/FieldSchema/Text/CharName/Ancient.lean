import FieldSchema.Text.CharName.Listing

/-!
# Names of ancient characters

The names of the characters from U+10000 to U+15FFF: the scripts of antiquity, and those of India
that are of historic interest.

* `CharName.ancient`: the listings.
-/

namespace FieldSchema.Text

/-- The listings, in the order of the characters. -/
def CharName.ancient : List NameListing := [
  ⟨0x10000, [
    ":LiEh B SYLLABf B008 A=B038 E=B028 I=B061 O=B010 U=B001 DA=B045 DE=B007 DI=B014 x=B051 DU=B",
    "057 JA=B046 JE~=B036 JO=B065 JU=B077 KA=B044 KE=B067 KI=B070 KO=B081 KU=B080 MA=B013 ME=B07",
    "3 MI=B015 MO=B023 MU=B006 NA=B024 NE=B030 NI=B052 NO=B055 NU=B003 PA=B072 PE=B039 PI=B011 P",
    "O=B050 PU=B016 QA=B078 QE=B021 QI=B032 QO~=B060 RA=B027 y=B053 RI=B002 RO=B026 RU=B031 SA=B",
    "009 SE=B041 t=B012 SO=B058 SU=B059 TA=B004 TE=B037 u=B005 TO=B069 TU=B054 WA=B075 WE=B040 W",
    "I=B042 WO~=B017 ZA=B074 ZE~=B020 ZO=B025 A2=B043 A3=B085 AU=B071 DWE=B090 DWO=B048 NWA=B02",
    "9 PU2=B062 PTE=B076 RA2=B033 RA3=B068 RO2=B066 TA2=B087 TWE=B091 TWO~~<SYMBOL B018=B019=B02",
    "2=B034=B047=B049=B056=B063=B064=B079=B082=B083=B086=B089"]⟩,
  ⟨0x10080, [
    ":LiEh B IDEOGRAM B100 Mj=B102 WOMj=B104 DEe=B105 EQUID=B105F MhE=B105M STlLIk=B106F EWE=B10",
    "6M RAM=B107F SHE-GOAT=B107M HE-GOAT=B108F SOW=B108M BOh=B109F COW=B109M BULL=B120 WHEAT=B12",
    "1 BhfY=B122 OLIVE=B123 SPICE=B125 CYPeUS<MkOGRAM B127 KAPO=B128 KjAKO<IDEOGRAM B130 OIL=B13",
    "1 WiE=B132<MkOGRAM B133 hEPA=B135 MeI<IDEOGRAM B140 BRkZE=B141 GOLD=B142=B145 WOOL=B146=B15",
    "0=B151 HORN=B152=B153=B154<MkOGRAM B156 TURO2<IDEOGRAM B157=B158=B159 CLOp=B160=B161=B162 G",
    "hMrT=B163 hMOUR=B164=B165=B166=B167=B168=B169=B170=B171=B172=B173 Mkp=B174=B176 TyE=B177=B1",
    "78=B179=B180=B181=B182=B183=B184=B185=B189=B190=B191 HELMET=B220 FOOTSTOOL=B225 BApTUB=B23",
    "0 SPEh=B231 hROW=B232=B233 SWORD=B234=B236=B240 WHEEfD CHhIOT=B241 CHhIOT=B242 CHhIOT FRAME",
    "=B243 WHEEL=B245=B246<MkOGRAM B247 DIPTE<IDEOGRAM B248=B249=B251=B252=B253=B254 DhT=B255=B2",
    "56=B257=B258=B259=VESSEL B155>B200>B201>B202>B203>B204>B205>B206>B207>B208>B209>B210>B211>B",
    "212>B213>B214>B215>B216>B217>B218>B219>B221>B222>B226>B227>B228>B229>B250>B305~~~~~:AEGEj W",
    "ORD SEPhATOR LiE=xT;CHECK MhK~~~~;NUMBe kE<TWO<pyE<FOUR<FIVE<tX<SEVr<Eg<NiE<Tr<TWrTY<pIRTY<",
    "FORTY<FIFTY<tXTY<SEVrTY<EgY<NiETY<kwHUNDyD<TWO.<pyE.<FOUR.<FIVE.<tX.<SEVr.<Eg.<NiE.<kwpOUSj",
    "D<TWO.<pyE.<FOUR.<FIVE.<tX.<SEVr.<Eg.<NiE.<Tr.<TWrTY.<pIRTY.<FORTY.<FIFTY.<tXTY.<SEVrTY.<Eg",
    "Y.<NiETY.~~~;WEg BASwUNIT<FIRST SUBUNIT<SECkD.<pIRD.<FOURp.;DRY MEASURwFIRST SUBUNIT;LIQUID",
    ".;MEASURwSECkD SUBUNIT<pIRD.:GyEK ACROPHkIC ATuC kwQUhTe>HlF>DRACHMA=FIVE=FIFTY=FIVwHUNDyD>",
    "pOUSjD=FIFTY.=FIVwTAfNTS=Tr.=FIFTY.=kwHUNDRoTAfNTS=FIVE.=kwpOUSjD.=FIVE.>STATeS=Tr.=FIFTY.=",
    "kwHUNDRoSTATeS=FIVE.=kwpOUSjD.=Tr.=FIFTY.=Tr MNAS<HeAEUM kwPfpRk<pESPIj kE<HeMIkIj.<EPIDAUy",
    "j TWO<pESPIj.<CYRrAIC TWO DRACHMAS<EPIDAUyj.<TROEZrIj FIVE=Tr>lTeNATwFORM<HeMIkIj Tr<MESSrI",
    "j.<pESPIj.=pIRTY<TROEZrIj FIFTY>lTeNATwFORM<HeMIkIj FIFTY<pESPIj.=kwHUNDyD=pyE.<EPIDAUyj FI",
    "VE.<TROEZrIj.<pESPIj.<ChYSuj.<NAXIj.<pESPIj kwpOUSjD=FIVE.<DELPHIC FIVwMNAS<STRAuj FIFTY.;k",
    "wHlF tGN>lTeNATwFORM;TWO pIRDS tGN;pywQUhTeS.;YEh tGN;TAfNT.;DRACHMA.;OBOL.;TWO OBOLS tGN;p",
    "yE.;FOUR.;FIVE.;METyTES tGN;KYApOS BASwtGN;LITRA tGN;OUNKIA.;XESTES.;hTABE.;hOURA.;GRAMMA.;",
    "TRYBLIk BASwtGN;ZeO tGN;kwQUhTe tGN;SiUSOID tGN;iDICuk.:NOMISMA tGN~:ROMj SEXTjS tGN;UNCIA.",
    ";SEMUNCIA.;SEXTULA.;DIMIDIA SEXTULA tGN;tLIQUA tGN;DrhIUS.;QUihIUS.;SESTeuUS.;DUPkDIUS.;AS.",
    ";CrTURIl.:ASCIA SYMBOL~~~:GyEK SYMBOL TAU RHO"]⟩,
  ⟨0x101D0, [
    ":PvISTOS DISC tGN PEDESTRIj=PLUMoHEAD=TATTOOED.=CAPuVE=CHILD=WOMj=HELMET=GAUNTfT=uhA=hROW=B",
    "OW=SHIELD=CLUB=MjACfS=MATTOCK=SAW=LID=BOOMejG=ChPrTRY PLjE=xLIUM=COMB=SLiG=COLUMN=BEEHIVE=S",
    "HIP=HORN=HIDE=BULLS fG=CAT=RAM=EAGf=xVE=TUNNY=BEE=PLjwTyE=ViE=PAPYRUS=ROSETTE=LILY=OX BACK=",
    "FLUTE=GRATe=STRAie=d AXE=WAVY BjD=COMBiiG OBLIQUwSTROKE"]⟩,
  ⟨0x10280, [
    ":LYCIj nA<E<B<BH<G<D<I<W<Z<p<J<K<Q<L<M<N<MM<NN<U<P<KK<R<S<T<TT<j<r<H<X~~~:ChIj nA<P2<D<L<UU",
    "U<R<LD<A2<Q<B<M<O<D2<T<SH<SH2<S<C-18<U<NN<X<N<TT2<P<SS<I<E<UUUU<K<K2<ND<UU<G<G2<ST<ST2<NG<I",
    "I<C-39<TT<UUU2<RR<MB<MB2<MB3<MB4<LD2<E2<UUU3"]⟩,
  ⟨0x102E0, [
    ":COPuC EPACT pOUSjDS MhK<DIGIT kE=TWO=pyE=FOUR=FIVE=tX=SEVr=Eg=NiE<NUMBe Tr=TWrTY=pIRTY=FOR",
    "TY=FIFTY=tXTY=SEVrTY=EgY=NiETY=kwHUNDyD=TWO.=pyE.=FOUR.=FIVE.=tX.=SEVr.=Eg.=NiE.~~~~:OLD IT",
    "lIC nA=BE=KE=DE=E=VE=ZE=HE=pE=I=KA=EL=EM=r=ESH=O=PE=SHE=KU=e=ES=TE=U=EKS=PHE=KHE=EF=eS=CHE=",
    "II=UU=ESS<NUMel kE=FIVE=Tr=FIFTY~~~~~~~~~<nYE=NORpeN TSE=SOUpeN.:GOpIC nAHSA<BAIRKj<GIBA<DA",
    "GS<AIHVUS<QAIRpRA<IUJA<vGL<pIUp<EIS<KUSMA<LAGUS<MjNA<NAUpS<Je<URUS<PAIRpRA<NiETY<RAIDA<SAUI",
    "L<TEIWS<WiJA<FAIHU<IGGWS<HWAIR<Opl<NiwHUNDyD~~~~~:OLD PeMIC nj=BUR=GAI=xI=E=ZHOI=DZHOI=ZATA",
    "=DZITA=I=KOKE=fI=MrOE=NrOE=VOOI=PEEI=yI=tI=TAI=U=CHeY=SHOOI=SHCHOOI=YRY=YeU=O=OO=EF=v=TtU=V",
    "e=Ye=YeI=YAT=IE=YU=YA=IA:COMBiiG OLD PeMIC nj>xI>ZATA>NrOE>tI~~~~~:UGhIuC nlPA<BETA<GAMLA<K",
    "v<DELTA<HO<WO<ZETA<HOTA<TET<YOD<KAF<SHi<LAMDA<MEM<DHl<NUN<ZU<SAMKA<Ai<PU<SADE<QOPA<RASv<pjN",
    "A<Gvi<TO<I<U<SSU~;WORD DIVIDe:OLD Petj tGN A=I=U=KA=KU=GA=GU=XA=CA=JA=JI=TA=TU=DA=DI=DU=pA=",
    "PA=BA=FA=NA=NU=MA=MI=MU=YA=VA=VI=RA=RU=LA=SA=ZA=Sv=SSA=v~~~~=AURAMAZDAA=AURAMAZDAA-2=AURAMA",
    "ZDAAv=XSvAYApIYA=DAHYAAUSH=DAHYAAUSH-2=BAGA=BUUMISH<WORD DIVIDe<NUMBe kE=TWO=Tr=TWrTY=HUNDy",
    "D"]⟩,
  ⟨0x10400, [
    ":DESeET zLkG I>E>A>AH>O>OO=SHORT I>E>A>AH>O>OO=AY=OW=WU=YEE=H=PEE=BEE=TEE=DEE=CHEE=JEE=KAY=",
    "GAY=EF=VEE=Ep=pEE=ES=ZEE=ESH=ZHEE=e=EL=EM=r=rG=OI=EW;d nLkG I>E>A>AH>O>OO=SHORT I>E>A>AH>O>",
    "OO=AY=OW=WU=YEE=H=PEE=BEE=TEE=DEE=CHEE=JEE=KAY=GAY=EF=VEE=Ep=pEE=ES=ZEE=ESH=ZHEE=e=EL=EM=r=",
    "rG=OI=EW:SvVIj nPEEP<TOT<KICK<FEE<pIGH<SO<SUy<CHURCH<YEA<HUNG<BIB<DEAD<GAG<VOW<pEY<ZOO<MEAS",
    "Uy<JUDGE<WOE<v-v<LOLL<MIME<IF<EGG<ASH<Ax<k<WOOL<OUT<AH<ROh<NUN<EAT<AGE<ICE<UP<OAK<OOZE<OIL<",
    "AWE<hE<OR<AIR<eR<hRAY<Eh<Ij<YEW:OSMjYA nAfF<BA<TA<JA<XA<Kv<DEEL<RA<SA<SHIi<Dv<CAYN<GA<FA<QA",
    "AF<KAAF<LAj<MIi<NUUN<WAW<v<YA<A<E<I<O<U<AA<EE<OO~~;DIGIT ZeO<kE<TWO<pyE<FOUR<FIVE<tX<SEVr<E",
    "g<NiE~~~~~~:OSAGwzA=AI=Ai=AH=BRA=Cv=EHCv=E=Ei=v=HYA=I=KA=EHKA=KYA=LA=MA=NA=O=Oi=PA=EHPA=SA=",
    "Sv=TA=EHTA=TSA=EHTSA=TSv=Dv=U=WA=Kv=Gv=ZA=Zv~~~~;d nA=AI=Ai=AH=BRA=Cv=EHCv=E=Ei=v=HYA=I=KA=",
    "EHKA=KYA=LA=MA=NA=O=Oi=PA=EHPA=SA=Sv=TA=EHTA=TSA=EHTSA=TSv=Dv=U=WA=Kv=Gv=ZA=Zv~~~~:ELBASj n",
    "A<BE<CE<CHE<DE<NDE<DHE<EI<E<FE<GE<GJE<HE<I<JE<KE<f<Lf<ME<NE<NA<NJE<O<PE<QE<y<Ry<SE<SHE<TE<p",
    "E<U<VE<XE<Y<ZE<ZHE<GHE<GvMMA<KHE~~~~~~~~:CAUCAtj lBjIj nlT=BET=GIM=DAT=EB=ZhL=EYN=ZHIL=TAS=",
    "Cv=YOWD=Zv=IRB=Sv=Lj=iYA=XEYN=DYj=Ch=JHOX=Kh=LYIT=HEYT=QAY=AOR=CHOY=CHI=CYAY=MAQ=Qh=NOWC=DZ",
    "YAY=SvK=JAYN=k=TYAY=FAM=DZAY=CvT=Pr=GHEYS=RAT=SEYK=VEYZ=uWR=SHOY=IWN=CYAW=CAYN=YAYD=PIWR=KI",
    "W~~~~~~~~~~~<CITAuk MhK:VIpKUQI zA=BBE=BE=CE=CHE=DE=DHE=EI=E=FE=GA~=v=Hv=I=IJE=JE=KA=LA=LLA",
    "=ME=NE=NJE=O=PE=QA=y~=SE=SHE=TE=pE=U=VE=XE~=Y=ZE~;d nA=BBE=BE=CE=CHE=DE=DHE=EI=E=FE=GA~=v=H",
    "v=I=IJE=JE=KA=LA=LLA=ME=NE=NJE=O=PE=QA=y~=SE=SHE=TE=pE=U=VE=XE~=Y=ZE"]⟩,
  ⟨0x10600, [
    ":LiEh A tGN AB001=AB002=AB003=AB004=AB005=AB006=AB007=AB008=AB009=AB010=AB011=AB013=AB016=A",
    "B017=AB020=AB021=AB021F=AB021M=AB022=AB022F=AB022M=AB023=AB023M=AB024=AB026=AB027=AB028=A02",
    "8B=AB029=AB030=AB031=AB034=AB037=AB038=AB039=AB040=AB041=AB044=AB045=AB046=AB047=AB048=AB04",
    "9=AB050=AB051=AB053=AB054=AB055=AB056=AB057=AB058=AB059=AB060=AB061=AB065=AB066=AB067=AB069",
    "=AB070=AB073=AB074=AB076=AB077=AB078=AB079=AB080=AB081=AB082=AB085=AB086=AB087=A100-102=AB1",
    "18=AB120=A120B=AB122=AB123=AB131A=AB131B=A131C=AB164=AB171=AB180=AB188=AB191=A301=A302=A303",
    "=A304=A305=A306=A307=A308=A309A=A309B=A309C=A310=A311=A312=A313A=A313B=A313C=A314=A315=A316",
    "=A317=A318=A319=A320=A321=A322=A323=A324=A325=A326=A327=A328=A329=A330=A331=A332=A333=A334=",
    "A335=A336=A337=A338=A339=A340=A341=A342=A343=A344=A345=A346=A347=A348=A349=A350=A351=A352=A",
    "353=A354=A355=A356=A357=A358=A359=A360=A361=A362=A363=A364=A365=A366=A367=A368=A369=A370=A3",
    "71=A400-VAS=A401-VAS=A402-VAS=A403-VAS=A404-VAS=A405-VAS=A406-VAS=A407-VAS=A408-VAS=A409-VA",
    "S=A410-VAS=A411-VAS=A412-VAS=A413-VAS=A414-VAS=A415-VAS=A416-VAS=A417-VAS=A418-VAS=A501=A50",
    "2=A503=A504=A505=A506=A508=A509=A510=A511=A512=A513=A515=A516=A520=A521=A523=A524=A525=A526",
    "=A527=A528=A529=A530=A531=A532=A534=A535=A536=A537=A538=A539=A540=A541=A542=A545=A547=A548=",
    "A549=A550=A551=A552=A553=A554=A555=A556=A557=A559=A563=A564=A565=A566=A568=A569=A570=A571=A",
    "572=A573=A574=A575=A576=A577=A578=A579=A580=A581=A582=A583=A584=A585=A586=A587=A588=A589=A5",
    "91=A592=A594=A595=A596=A598=A600=A601=A602=A603=A604=A606=A608=A609=A610=A611=A612=A613=A61",
    "4=A615=A616=A617=A618=A619=A620=A621=A622=A623=A624=A626=A627=A628=A629=A634=A637=A638=A640",
    "=A642=A643=A644=A645=A646=A648=A649=A651=A652=A653=A654=A655=A656=A657=A658=A659=A660=A661=",
    "A662=A663=A664~~~~~~~~~=A701 A=A702 B=A703 D=A704 E=A705 F=A706 H=A707 J=A708 K=A709 L=A709",
    "-2 L2=A709-3 L3=A709-4 L4=A709-6 L6=A710 W=A711 X=A712 Y=A713 OMEGA=A714 ABB=A715 BB=A717 D",
    "D=A726 EYYY=A732 JE~~~~~~~~~~=A800=A801=A802=A803=A804=A805=A806=A807"]⟩,
  ⟨0x10780, [
    ":MODIFIe nd CAPITl AA<SUPeSCRIPT TRIjGULh COLk=HlF TRIjGULh COLk<d AE=CAPITl B=BcHOOK~=DZ D",
    "IGRAPH?WIp yTROFfX HOOK@CURL=DEZH DIGRAPH=DcTAIL?HOOK@jD TAIL=yVeSoE=CLOSoyVeSoOPr E=FrG DI",
    "GRAPH=RAMS HORN=CAPITl G=GcHOOK=CAPITl GcHOOK=HcSTROKE=CAPITl H=HrGcHOOK=xTfSS JcSTROKwjD H",
    "OOK=LS DIGRAPH=LZ.=LcBELT=CAPITl LcBELT=LcyTROFfX HOOK jD BELT=fZH>WIp yTROFfX HOOK=TURNoY?",
    "WIp BELT=OcSTROKE=CAPITl OE=CLOSoOMEGA=Q=TURNoRcLkG fG@LkG fG jD yTROFfX HOOK=RcTAIL?FISHHO",
    "OK=CAPITl R=TC DIGRAPHcCURL=TS DIGRAPH?WIp yTROFfX HOOK=TESH DIGRAPH=TcyTROFfX HOOK=VcRg.~=",
    "CAPITl Y<GLOTTl STOPcSTROKE<yVeSoGLOTTl STOPcSTROKE<BILABIl CLICK<DrTl.<LATel.<lVEOLh.<yTRO",
    "FfX CLICKcyTROFfX HOOK<d ScCURL"]⟩,
  ⟨0x10800, [
    ":CYPRIOT SYLLABf A<E<I<O<U<JA~~<JO~<KA<KE<KI<KO<KU<LA<f<LI<LO<LU<MA<ME<MI<MO<MU<NA<NE<NI<NO",
    "<NU<PA<PE<PI<PO<PU<RA<y<RI<RO<RU<SA<SE<t<SO<SU<TA<TE<u<TO<TU<WA<WE<WI<WO~<XA<XE~~~<ZA~~<ZO:",
    "IMPeIl hAMAIC nAfPH=BEp=GIMEL=DAfp=HE=WAW=ZAYi=HEp=TEp=YODH=KAPH=LAMEDH=MEM=NUN=SAMEKH=AYi=",
    "PE=SADHE=QOPH=ySH=SHi=TAW~<SECuk tGN<NUMBe kE=TWO=pyE=Tr=TWrTY=kwHUNDyD>pOUSjD=Tr.:PlMYRrwn",
    "AfPH<BEp<GIMEL<DAfp<HE<WAW<ZAYi<HEp<TEp<YODH<KAPH<LAMEDH<MEM<Fil NUN<NUN<SAMEKH<AYi<PE<SADH",
    "E<QOPH<ySH<SHi<TAW;fFT-POiTiG FfURk;Rg-POiTiG.;NUMBe kE<TWO<pyE<FOUR<FIVE<Tr<TWrTY:NABATAE",
    "j nFil AfPH<AfPH<Fil BEp<BEp<GIMEL<DAfp<Fil HE<HE<WAW<ZAYi<HEp<TEp<Fil YODH<YODH<Fil KAPH<K",
    "APH<Fil LAMEDH<LAMEDH<Fil MEM<MEM<Fil NUN<NUN<SAMEKH<AYi<PE<SADHE<QOPH<ySH<Fil SHi<SHi<TAW~",
    "~~~~~~~;NUMBe kE<TWO<pyE<FOUR;CRUCIFORM NUMBe FOUR;NUMBe FIVE<Tr<TWrTY<kwHUNDyD"]⟩,
  ⟨0x108E0, [
    ":vTRj nAfPH<BEp<GIMEL<DAfp-ySH<HE<WAW<ZAYN<HEp<TEp<YODH<KAPH<LAMEDH<MEM<NUN<SAMEKH<AYN<PE<S",
    "ADHE<QOPH~<SHi<TAW~~~~~;NUMBe kE<FIVE<Tr<TWrTY<kwHUNDyD:PHOrICIj nlF<BET<GAML<DELT<HE<WAU<Z",
    "AI<HET<TET<YOD<KAF<LAMD<MEM<NUN<SEMK<Ai<PE<SADE<QOF<ROSH<SHi<TAU;NUMBe kE<Tr<TWrTY<kwHUNDyD",
    "<TWO<pyE~~~;WORD SEPhATOR:LYDIj nA<B<G<D<E<V<I<Y<K<L<M<N<O<R<SS<T<U<F<Q<S<TT<j<r<LY<NN<C~~~",
    "~~;TRIjGULh MhK"]⟩,
  ⟨0x10980, [
    ":MeOIuC HIeOGLYPHIC nA=E=I=O=YA=WA=BA=BA-2=PA=MA=NA=NA-2=NE=NE-2=RA=RA-2=LA=Kv=Hv=SA=SA-2=S",
    "E=KA=QA=TA=TA-2=TE=TE-2=TO=DA<SYMBOL VIDJ=VIDJ-2;CURtVwnA=E=I=O=YA=WA=BA=PA=MA=NA=NE=RA=LA=",
    "Kv=Hv=SA=hCvIC SA=SE=KA=QA=TA=TE=TO=DA~~~~<FRACuk EfVr TWELFpS=kwHlF<LOGOGRAM RMT=IMN<NUMB",
    "e kE=TWO=pyE=FOUR=FIVE=tX=SEVr=Eg=NiE=Tr=TWrTY=pIRTY=FORTY=FIFTY=tXTY=SEVrTY~~=kwHUNDyD=TWO",
    ".=pyE.=FOUR.=FIVE.=tX.=SEVr.=Eg.=NiE.=kwpOUSjD=TWO.=pyE.=FOUR.=FIVE.=tX.=SEVr.=Eg.=NiE.=Tr.",
    "=TWrTY.=pIRTY.=FORTY.=FIFTY.=tXTY.=SEVrTY.=EgY.=NiETY.=kwHUNDRopOUSjD=TWO.=pyE.=FOUR.=FIVE.",
    "=tX.=SEVr.=Eg.=NiE.<FRACuk kwTWELFp=TWO TWELFpS=pyE.=FOUR.=FIVE.=tX.=SEVr.=Eg.=NiE.=Tr.:KHh",
    "OSHpI nA;VOWEL tGN I=U=VOClIC R~=E=O~~~~~<fNGp MhK;tGN xUBf RiG BELOW<jUSVhA<VIShGA;nKA<Kv<",
    "GA<Gv~<CA<Cv<JA~<NYA<TTA<TpA<DDA<DDv<NNA<TA<pA<DA<Dv<NA<PA<Pv<BA<Bv<MA<YA<RA<LA<VA<Sv<SSA<S",
    "A<ZA<v<KKA<TTpA<TTTA<Vv~~;tGN Bhq<CAUDA<xT BELOW~~~~;VIRAMA;DIGIT kE<TWO<pyE<FOUR;NUMBe Tr<",
    "TWrTY<kwHUNDyD=pOUSjD;FRACuk kwHlF~~~~~~~;PUNCTUAuk xT<d CIRCf<CIRCf<CySCrT Bh<MjGlAM<LOTUS",
    "<DjDA<xUBf DjDA<LiES~~~~~~~:OLD SOUp hABIj nHE>LAMEDH>HEp>MEM>QOPH>WAW>SHi>ySH>BEp>TAW>SAT>",
    "KAPH>NUN>KHEp>SADHE>SAMEKH>FE>AfF>AYN>DvDHE>GIMEL>DAfp>GvYN>TEp>ZAYN>Dvfp>YODH>pAW>pEp=NUMB",
    "e kE>FIFTY=NUMeIC iDICATOR;NORp hABIj nHEH>LAM>vH>MEEM>QAF>WAW>ES-2>yH>BEH>TEH>ES-1>KAF>NOk",
    ">KvH>SAD>ES-3>FEH>AfF>Ai>DAD>GEEM>Dl>Gvi>TAH>ZAi>pl>YEH>pEH>ZAH=NUMBe kE>Tr>TWrTY"]⟩,
  ⟨0x10AC0, [
    ":MjICvEj nAfPH<BEp<BHEp<GIMEL<GHIMEL<DAfp<HE<WAW;tGN UD;nZAYi<ZvYi<JAYi<JvYi<HEp<TEp<YODH<K",
    "APH<XAPH<KvPH<LAMEDH<DvMEDH<pAMEDH<MEM<NUN<SAMEKH<AYi<AAYi<PE<FE<SADHE<QOPH<XOPH<QHOPH<ySH<",
    "SHi<SSHi<TAW;ABByVIAuk MhKq=BELOW~~~~;NUMBe kE<FIVE<Tr<TWrTY<kwHUNDyD;PUNCTUAuk STh<FfURk<x",
    "UBf xT WIpi xT<xT WIpi xT<xT<TWO xTS<LiwFILLe~~~~~~~~~:AVESTj nA<AA<AO<AAO<j<Aj<AE<AEE<E<EE",
    "<O<OO<I<II<U<UU<KE<XE<XYE<XVE<GE<GGE<GHE<CE<JE<TE<pE<DE<DHE<TTE<PE<FE<BE<BHE<NGE<NGYE<NGVE<",
    "NE<NYE<NNE<ME<HME<YYE<YE<VE<y<f<SE<ZE<SHE<ZHE<SHYE<SSHE<HE~~~;ABByVIAuk MhK:TiY TWO xTS OV",
    "e kwxT PUNCTUAuk:d.:LhGE.;kwxT OVe TWO xTS.;TWO RiGS OVe kwRiG.;kwRiG OVe TWO RiGS.:iSCRIPu",
    "kl PhpIj nAfPH=BEp=GIMEL=DAfp=HE=WAW=ZAYi=HEp=TEp=YODH=KAPH=LAMEDH=MEM=NUN=SAMEKH=AYi=PE=SA",
    "DHE=QOPH=ySH=SHi=TAW~~<NUMBe kE=TWO=pyE=FOUR=Tr=TWrTY=kwHUNDyD>pOUSjD;PAHLAVI nAfPH=BEp=GIM",
    "EL=DAfp=HE=WAW-AYi-ySH=ZAYi=HEp=TEp=YODH=KAPH=LAMEDH=MEM-QOPH=NUN=SAMEKH=PE=SADHE=SHi=TAW~~",
    "~~~<NUMBe kE=TWO=pyE=FOUR=Tr=TWrTY=kwHUNDyD>pOUSjD:PSlTe PAHLAVI nAfPH=BEp=GIMEL=DAfp=HE=WA",
    "W-AYi-ySH=ZAYi=HEp=YODH=KAPH=LAMEDH=MEM-QOPH=NUN=SAMEKH=PE=SADHE=SHi=TAW~~~~~~~<SECuk MhK<T",
    "URNoSECuk MhK<FOUR xTScCROSS?xT"]⟩,
  ⟨0x10BA9, [
    ":PSlTe PAHLAVI NUMBe kE=TWO=pyE=FOUR=Tr=TWrTY=kwHUNDyD"]⟩,
  ⟨0x10C00, [
    ":OLD TURKIC nORKHk A=YrISEI.>AE=ORKHk I=YrISEI.>E=ORKHk O>OE=YrISEI.=ORKHk AB=YrISEI.=ORKH",
    "k AEB=YrISEI.=ORKHk AG=YrISEI.=ORKHk AEG=YrISEI.=ORKHk AD=YrISEI.=ORKHk AED>EZ=YrISEI.=ORKH",
    "k AY=YrISEI.=ORKHk AEY=YrISEI.=ORKHk AEK=YrISEI.=ORKHk OEK=YrISEI.=ORKHk l=YrISEI.=ORKHk AE",
    "L>ELT>EM>j>Ar=YrISEI.=ORKHk rT=YrISEI.=ORKHk rC=YrISEI.=ORKHk rY=YrISEI.>jG=ORKHk rG=YrISE",
    "I ArG=ORKHk EP>OP>IC>EC=YrISEI.=ORKHk AQ=YrISEI.=ORKHk IQ=YrISEI.=ORKHk OQ=YrISEI.=ORKHk h=",
    "YrISEI.=ORKHk Ae>AS>AES>ASH=YrISEI.=ORKHk ESH=YrISEI.=ORKHk AT=YrISEI.=ORKHk AET=YrISEI.=OR",
    "KHk OT>BASH"]⟩,
  ⟨0x10C80, [
    ":OLD HUNGhIj zA>AA>EB>AMB>EC>rC>ECS>ED>jD>E>CLOSwE>EE>EF>EG>EGY>EH>I>II>EJ>EK>AK>UNK>EL>ELY",
    ">EM>r>rY>O>OO>NIKOLSBURG OE>RUDIMrTA.>OEE>EP>EMP>e>SHORT e>ES>ESZ>ET>rT>ETY>ECH>U>UU>NIKOLS",
    "BURG UE>RUDIMrTA.>EV>EZ>EZS>rT-SvPotGN>US"]⟩,
  ⟨0x10CC0, [
    ":OLD HUNGhIj d nA>AA>EB>AMB>EC>rC>ECS>ED>jD>E>CLOSwE>EE>EF>EG>EGY>EH>I>II>EJ>EK>AK>UNK>EL>E",
    "LY>EM>r>rY>O>OO>NIKOLSBURG OE>RUDIMrTA.>OEE>EP>EMP>e>SHORT e>ES>ESZ>ET>rT>ETY>ECH>U>UU>NIKO",
    "LSBURG UE>RUDIMrTA.>EV>EZ>EZS>rT-SvPotGN>US~~~~~~~<NUMBe kE=FIVE=Tr=FIFTY=kwHUNDyD>pOUSjD:H",
    "jIFI ROHiGYA nA=BA=PA=TA=TTA=JA=CA=v=Kv=FA=DA=DDA=RA=RRA=ZA=SA=Sv=KA=GA=LA=MA=NA=WA=KiNA WA",
    "=YA=KiNA YA=NGA=NYA=VA<VOWEL A=I=U=E=O<MhK SAKi=NA KHkNA<tGN HhBAvY=TAHlA=TjA=TASt~~~~~~~~<",
    "DIGIT ZeO=kE=TWO=pyE=FOUR=FIVE=tX=SEVr=Eg=NiE"]⟩,
  ⟨0x10E60, [
    ":RUMI DIGIT kE<TWO<pyE<FOUR<FIVE<tX<SEVr<Eg<NiE;NUMBe Tr<TWrTY<pIRTY<FORTY<FIFTY<tXTY<SEVrT",
    "Y<EgY<NiETY<kwHUNDyD<TWO.<pyE.<FOUR.<FIVE.<tX.<SEVr.<Eg.<NiE.;FRACuk kwHlF=QUhTe=pIRD<TWO p",
    "IRDS~:YEZIDI nELIF<BE<PE<PHE<pE<SE<CIM<CHIM<CHHIM<Hv<XA<Dl<Zl<RA<Rv<ZA<JA<Si<SHi<SAD<DAD<TA",
    "<ZE<EYN<XHEYN<FA<VA=lTeNATwFORM<QAF<KAF<KvF<GAF<LAM<MIM<NUN<UM<WAW<OW<EW<vY<YOT<ET~;COMBii",
    "G vMZA MhK<MADDA.;HYPHrAuk MhK~~;nLAMcxTq<YOTcCIRCUMFfX."]⟩,
  ⟨0x10F00, [
    ":OLD SOGDIj nAfPH=Fil AfPH=BEp=Fil BEp=GIMEL=HE=Fil HE=WAW=ZAYi=HEp=YODH=KAPH=LAMEDH=MEM=NU",
    "N=Fil NUN?WIp VeuCl TAIL=SAMEKH=AYi=lTeNATwAYi=PE=SADHE=Fil SADHE?WIp VeuCl TAIL=ySH-AYi-DA",
    "fp=SHi=TAW=Fil TAW?WIp VeuCl TAIL<NUMBe kE=TWO=pyE=FOUR=FIVE=Tr=TWrTY=pIRTY=kwHUNDyD<FRACu",
    "k kwHlF<LIGATURwAYi-DAfp~~~~~~~~:SOGDIj nAfPH<BEp<GIMEL<HE<WAW<ZAYi<HEp<YODH<KAPH<LAMEDH<ME",
    "M<NUN<SAMEKH<AYi<PE<SADHE<ySH-AYi<SHi<TAW<FEp<fSH;iDEPrDrT SHi;COMBiiG xT BELOW<TWO xTS BEL",
    "OW<xTq<TWO xTSq<CURVEq=BELOW<HOOKq=BELOW<LkG HOOK BELOW<ySH BELOW<STROKE.;NUMBe kE<Tr<TWrTY",
    "<kwHUNDyD;PUNCTUAuk TWO VeuCl BhS?WIp xTS<CIRCfcxT<TWO CIRCfScxTS<HlF CIRCfcxT"]⟩,
  ⟨0x10F70, [
    ":OLD UYGHUR nAfPH=BEp=GIMEL-HEp=WAW=ZAYi=Fil HEp=YODH=KAPH=LAMEDH=MEM=NUN=SAMEKH=PE=SADHE=y",
    "SH=SHi=TAW=fSH<COMBiiG xTq>BELOW=TWO xTSq?BELOW<PUNCTUAuk Bh=TWO BhS>xTS=FOUR."]⟩,
  ⟨0x10FB0, [
    ":CHORASMIj nAfPH<d AfPH<BEp<GIMEL<DAfp<HE<WAW<CURfD WAW<ZAYi<HEp<YODH<KAPH<LAMEDH<MEM<NUN<S",
    "AMEKH<AYi<PE<ySH<SHi<TAW;NUMBe kE<TWO<pyE<FOUR<Tr<TWrTY<kwHUNDyD"]⟩,
  ⟨0x10FE0, [
    ":ELYMAIC nAfPH<BEp<GIMEL<DAfp<HE<WAW<ZAYi<HEp<TEp<YODH<KAPH<LAMEDH<MEM<NUN<SAMEKH<AYi<PE<SA",
    "DHE<QOPH<ySH<SHi<TAW;LIGATURwZAYi-YODH~~~~~~~~~:BRAHMI tGN CjDRABiDU<jUSVhA<VIShGA<JIHVAMUL",
    "IYA<UPADHMjIYA;nA<AA<I<II<U<UU<VOClIC R=RR=L=LL<E<AI<O<AU<KA<Kv<GA<Gv<NGA<CA<Cv<JA<Jv<NYA<T",
    "TA<TpA<DDA<DDv<NNA<TA<pA<DA<Dv<NA<PA<Pv<BA<Bv<MA<YA<RA<LA<VA<Sv<SSA<SA<v<LLA<OLD TAMIL LLLA",
    ">RRA>NNNA;VOWEL tGN AA=BvTuPROLU AA=I=II=U=UU=VOClIC R>RR>L>LL=E=AI=O=AU;VIRAMA;DjDA;xUBf D",
    "jDA;PUNCTUAuk xT<xUBf xT<LiE<CySCrT Bh<LOTUS~~~~;NUMBe kE<TWO<pyE<FOUR<FIVE<tX<SEVr<Eg<NiE<",
    "Tr<TWrTY<pIRTY<FORTY<FIFTY<tXTY<SEVrTY<EgY<NiETY<kwHUNDyD=pOUSjD;DIGIT ZeO<kE<TWO<pyE<FOUR<",
    "FIVE<tX<SEVr<Eg<NiE;tGN OLD TAMIL VIRAMA;nOLD TAMIL SHORT E?O;VOWEL tGN OLD TAMIL SHORT E@O",
    ";nOLD TAMIL LLA~~~~~~~~~;NUMBe JOie:KAIpI tGN CjDRABiDU<jUSVhA<VIShGA;nA<AA<I<II<U<UU<E<AI<",
    "O<AU<KA<Kv<GA<Gv<NGA<CA<Cv<JA<Jv<NYA<TTA<TpA<DDA<DDDv<DDv<Rv<NNA<TA<pA<DA<Dv<NA<PA<Pv<BA<Bv",
    "<MA<YA<RA<LA<VA<Sv<SSA<SA<v;VOWEL tGN AA=I=II=U=UU=E=AI=O=AU;tGN VIRAMA<NUKTA;ABByVIAuk tGN",
    ";rUMeAuk.;NUMBe.;SECuk MhK;xUBf SECuk MhK;DjDA;xUBf DjDA;VOWEL tGN VOClIC R~~~~~~~~~~;NUMB",
    "e tGNq~~:SORA SOMPrG nSAH=TAH=BAH=CAH=DAH=GAH=MAH=NGAH=LAH=NAH=VAH=PAH=YAH=RAH=vH=KAH=JAH=N",
    "YAH=AH=EEH=IH=UH=OH=EH=MAE~~~~~~~<DIGIT ZeO=kE=TWO=pyE=FOUR=FIVE=tX=SEVr=Eg=NiE~~~~~~:CvKM",
    "A tGN CjDRABiDU<jUSVhA<VIShGA;nAA<I<U<E<KAA<KvA<GAA<GvA<NGAA<CAA<CvA<JAA<JvA<NYAA<TTAA<TpAA",
    "<DDAA<DDvA<NNAA<TAA<pAA<DAA<DvA<NAA<PAA<PvA<BAA<BvA<MAA<YYAA<YAA<RAA<LAA<WAA<SAA<vA;VOWEL t",
    "GN A=I=II=U=UU=E=AI=O=AU=OI;O MhK;AU.;VIRAMA;MAAYYAA~;DIGIT ZeO<kE<TWO<pyE<FOUR<FIVE<tX<SEV",
    "r<Eg<NiE;SECuk MhK;DjDA;xUBf DjDA;QUESuk MhK;nLvA;VOWEL tGN AA=EI;nVAA~~~~~~~~:MAvJjI nA<I<",
    "U<E<O<KA<Kv<GA<Gv<CA<Cv<JA<Jv<NYA<TTA<TpA<DDA<DDv<NNA<TA<pA<DA<Dv<NA<PA<Pv<BA<Bv<MA<RA<LA<V",
    "A<SA<v<RRA;tGN NUKTA;ABByVIAuk tGN;SECuk MhK;LIGATURwSHRI~~~~~~~~~:SHhADA tGN CjDRABiDU<jUS",
    "VhA<VIShGA;nA<AA<I<II<U<UU<VOClIC R=RR=L=LL<E<AI<O<AU<KA<Kv<GA<Gv<NGA<CA<Cv<JA<Jv<NYA<TTA<T",
    "pA<DDA<DDv<NNA<TA<pA<DA<Dv<NA<PA<Pv<BA<Bv<MA<YA<RA<LA<LLA<VA<Sv<SSA<SA<v;VOWEL tGN AA=I=II=",
    "U=UU=VOClIC R>RR>L>LL=E=AI=O=AU;tGN VIRAMA<AVAGRAv<JIHVAMULIYA<UPADHMjIYA;OM;DjDA;xUBf DjDA",
    ";ABByVIAuk tGN;SEPhATOR;SjDHI MhK;tGN NUKTA;VOWEL MODIFIe MhK;EXTRA SHORT VOWEL MhK;SUTRA M",
    "hK;VOWEL tGN PRISHpAMATRA E;tGN iVeToCjDRABiDU;DIGIT ZeO<kE<TWO<pyE<FOUR<FIVE<tX<SEVr<Eg<Ni",
    "E;EKAM;tGN tDDvM;HEADSTROKE;CkTiUAuk tGN;SECuk MhK-1<MhK-2~:SiHlA hCvIC DIGIT kE=TWO=pyE=FO",
    "UR=FIVE=tX=SEVr=Eg=NiE<NUMBe Tr=TWrTY=pIRTY=FORTY=FIFTY=tXTY=SEVrTY=EgY=NiETY=kwHUNDyD>pOUS",
    "jD~~~~~~~~~~~:KHOJKI nA<AA<I<U<E<AI<O<AU<KA<Kv<GA<GGA<Gv<NGA<CA<Cv<JA<JJA~<NYA<TTA<TpA<DDA<",
    "DDv<NNA<TA<pA<DA<DDDA<Dv<NA<PA<Pv<BA<BBA<Bv<MA<YA<RA<LA<VA<SA<v<LLA;VOWEL tGN AA=I=II=U=E=A",
    "I=O=AU;tGN jUSVhA<VIRAMA<NUKTA<SvDDA;DjDA;xUBf DjDA;WORD SEPhATOR;SECuk MhK;xUBf SECuk MhK;",
    "ABByVIAuk tGN;tGN SUKUN"]⟩,
  ⟨0x11280, [
    ":MULTjI nA<I<U<E<KA<Kv<GA~<Gv~<CA<Cv<JA<JJA~<NYA<TTA<TpA<DDA<DDDA<DDv<NNA<TA<pA<DA<Dv<NA<PA",
    "<Pv<BA~<Bv<MA<YA<RA<LA<VA<SA<v<RRA<Rv;SECuk MhK~~~~~~:KHUDAWADI nA<AA<I<II<U<UU<E<AI<O<AU<K",
    "A<Kv<GA<GGA<Gv<NGA<CA<Cv<JA<JJA<Jv<NYA<TTA<TpA<DDA<DDDA<RRA<DDv<NNA<TA<pA<DA<Dv<NA<PA<Pv<BA",
    "<BBA<Bv<MA<YA<RA<LA<VA<Sv<SA<v;tGN jUSVhA;VOWEL tGN AA=I=II=U=UU=E=AI=O=AU;tGN NUKTA<VIRAMA",
    "~~~~~;DIGIT ZeO<kE<TWO<pyE<FOUR<FIVE<tX<SEVr<Eg<NiE~~~~~~:GRjpA tGN COMBiiG jUSVhAq<CjDRABi",
    "DU<jUSVhA<VIShGA~;nA<AA<I<II<U<UU<VOClIC R=L~~<EE<AI~~<OO<AU<KA<Kv<GA<Gv<NGA<CA<Cv<JA<Jv<NY",
    "A<TTA<TpA<DDA<DDv<NNA<TA<pA<DA<Dv<NA~<PA<Pv<BA<Bv<MA<YA<RA~<LA<LLA~<VA<Sv<SSA<SA<v~:COMBii",
    "G BiDU BELOW:GRjpA tGN NUKTA<AVAGRAv;VOWEL tGN AA=I=II=U=UU=VOClIC R>RR~~=EE=AI~~=OO=AU;tG",
    "N VIRAMA~~;OM~~~~~~;AU fNGp MhK~~~~~;tGN PLUTA;nVEDIC jUSVhA=xUBf jUSVhA<VOClIC RR=LL;VOWE",
    "L tGN VOClIC L>LL~~:COMBiiG GRjpA DIGIT ZeO=kE=TWO=pyE=FOUR=FIVE=tX~~~<nA=KA=NA=VI=PA"]⟩,
  ⟨0x11400, [
    ":NEWA nA<AA<I<II<U<UU<VOClIC R=RR=L=LL<E<AI<O<AU<KA<Kv<GA<Gv<NGA<NGv<CA<Cv<JA<Jv<NYA<NYv<TT",
    "A<TpA<DDA<DDv<NNA<TA<pA<DA<Dv<NA<Nv<PA<Pv<BA<Bv<MA<Mv<YA<RA<Rv<LA<Lv<WA<Sv<SSA<SA<v;VOWEL t",
    "GN AA=I=II=U=UU=VOClIC R>RR>L>LL=E=AI=O=AU;tGN VIRAMA<CjDRABiDU<jUSVhA<VIShGA<NUKTA<AVAGRAv",
    "<Fil jUSVhA;OM;tDDHI;DjDA;xUBf DjDA;COMMA;GAP FILLe;ABByVIAuk tGN;DIGIT ZeO<kE<TWO<pyE<FOUR",
    "<FIVE<tX<SEVr<Eg<NiE;xUBf COMMA;PLACEHOLDe MhK~;iSeuk tGN;SjDHI MhK;nVEDIC jUSVhA;tGN JIHVA",
    "MULIYA<UPADHMjIYA"]⟩,
  ⟨0x11480, [
    ":uRHUTA jJI;nA<AA<I<II<U<UU<VOClIC R=RR=L=LL<E<AI<O<AU<KA<Kv<GA<Gv<NGA<CA<Cv<JA<Jv<NYA<TTA<",
    "TpA<DDA<DDv<NNA<TA<pA<DA<Dv<NA<PA<Pv<BA<Bv<MA<YA<RA<LA<VA<Sv<SSA<SA<v;VOWEL tGN AA=I=II=U=U",
    "U=VOClIC R>RR>L>LL=E=SHORT E=AI=O=SHORT O=AU;tGN CjDRABiDU<jUSVhA<VIShGA<VIRAMA<NUKTA<AVAGR",
    "Av;GVjG;ABByVIAuk tGN;OM~~~~~~~~;DIGIT ZeO<kE<TWO<pyE<FOUR<FIVE<tX<SEVr<Eg<NiE"]⟩,
  ⟨0x11580, [
    ":tDDvM nA<AA<I<II<U<UU<VOClIC R=RR=L=LL<E<AI<O<AU<KA<Kv<GA<Gv<NGA<CA<Cv<JA<Jv<NYA<TTA<TpA<D",
    "DA<DDv<NNA<TA<pA<DA<Dv<NA<PA<Pv<BA<Bv<MA<YA<RA<LA<VA<Sv<SSA<SA<v;VOWEL tGN AA=I=II=U=UU=VOC",
    "lIC R>RR~~=E=AI=O=AU;tGN CjDRABiDU<jUSVhA<VIShGA<VIRAMA<NUKTA<tDDvM;DjDA;xUBf DjDA;SEPhATO",
    "R xT<Bh;yPEuuk MhK-1<MhK-2<MhK-3;rD OF TEXT MhK;SECuk MhKcTRIDrT jD U-SvPoORNAMrTS@xTToCySC",
    "rTS>RAYS.@xTToxUBf CySCrTS@xTToTRIPf.=xUBf RiG?WIp RAYS=WIp xUBf CySCrTS>TRIPf.>QUADRUPf.>S",
    "EPTUPf.>CIRCfS jD RAYS@TWO rCLOSUyS@FOUR.;npyE-CIRCf lTeNATwI<TWO-CIRCf.>II<lTeNATwU;VOWEL ",
    "tGN lTeNATwU>UU"]⟩,
  ⟨0x11600, [
    ":MODI nA<AA<I<II<U<UU<VOClIC R=RR=L=LL<E<AI<O<AU<KA<Kv<GA<Gv<NGA<CA<Cv<JA<Jv<NYA<TTA<TpA<DD",
    "A<DDv<NNA<TA<pA<DA<Dv<NA<PA<Pv<BA<Bv<MA<YA<RA<LA<VA<Sv<SSA<SA<v<LLA;VOWEL tGN AA=I=II=U=UU=",
    "VOClIC R>RR>L>LL=E=AI=O=AU;tGN jUSVhA<VIShGA<VIRAMA<hDvCjDRA;DjDA;xUBf DjDA;ABByVIAuk tGN;t",
    "GN HUVA~~~~~~~~~~~;DIGIT ZeO<kE<TWO<pyE<FOUR<FIVE<tX<SEVr<Eg<NiE~~~~~~:MkGOLIj BIRGAcORNAMr",
    "T;ROTAToBIRGA;xUBf BIRGAcORNAMrT;TRIPf.;BIRGAcxUBf.;ROTAToBIRGA WIp.>xUBf ORNAMrT;iVeToBIRG",
    "A=WIp xUBf ORNAMrT;SWIRL BIRGA=WIp ORNAMrT>xUBf ORNAMrT;TURNoSWIRL BIRGAcxUBf ORNAMrT"]⟩,
  ⟨0x11680, [
    ":TAKRI nA<AA<I<II<U<UU<E<AI<O<AU<KA<Kv<GA<Gv<NGA<CA<Cv<JA<Jv<NYA<TTA<TpA<DDA<DDv<NNA<TA<pA<",
    "DA<Dv<NA<PA<Pv<BA<Bv<MA<YA<RA<LA<VA<Sv<SA<v<RRA;tGN jUSVhA<VIShGA;VOWEL tGN AA=I=II=U=UU=E=",
    "AI=O=AU;tGN VIRAMA<NUKTA;nhCvIC Kv;ABByVIAuk tGN~~~~~~;DIGIT ZeO<kE<TWO<pyE<FOUR<FIVE<tX<SE",
    "Vr<Eg<NiE"]⟩,
  ⟨0x11700, [
    ":AHOM nKA<Kv<NGA<NA<TA<lTeNATwTA<PA<Pv<BA<MA<JA<Cv<pA<RA<LA<SA<NYA<v<A<DA<Dv<GA<lTeNATwGA<G",
    "v<Bv<Jv<lTeNATwBA~~;CkSkjT tGN MEDIl LA>RA>LIGATiG RA;VOWEL tGN A=AA=I=II=U=UU=E=AW=O=AI=AM",
    ";tGN KILLe~~~~;DIGIT ZeO<kE<TWO<pyE<FOUR<FIVE<tX<SEVr<Eg<NiE;NUMBe Tr<TWrTY;tGN d SECuk<SEC",
    "uk<RULAI;SYMBOL VI;nCA<TTA<TpA<DDA<DDv<NNA<LLA"]⟩,
  ⟨0x11800, [
    ":xGRA nA<AA<I<II<U<UU<E<AI<O<AU<KA<Kv<GA<Gv<NGA<CA<Cv<JA<Jv<NYA<TTA<TpA<DDA<DDv<NNA<TA<pA<D",
    "A<Dv<NA<PA<Pv<BA<Bv<MA<YA<RA<LA<VA<Sv<SSA<SA<v<RRA;VOWEL tGN AA=I=II=U=UU=VOClIC R>RR=E=AI=",
    "O=AU;tGN jUSVhA<VIShGA<VIRAMA<NUKTA;ABByVIAuk tGN"]⟩,
  ⟨0x118A0, [
    ":WhjG CIu zNGAA>A>WI>YU>YA>YO>II>UU>E>O>jG>GA>KO>rY>YUJ>UC>rN>ODD>TTE>NUNG>DA>AT>AM>BU>PU>H",
    "IYO>HOLO>HORR>Hh>SSUU>tI>VIYO<d nNGAA>A>WI>YU>YA>YO>II>UU>E>O>jG>GA>KO>rY>YUJ>UC>rN>ODD>TTE",
    ">NUNG>DA>AT>AM>BU>PU>HIYO>HOLO>HORR>Hh>SSUU>tI>VIYO<DIGIT ZeO=kE=TWO=pyE=FOUR=FIVE=tX=SEVr=",
    "Eg=NiE<NUMBe Tr=TWrTY=pIRTY=FORTY=FIFTY=tXTY=SEVrTY=EgY=NiETY"]⟩,
  ⟨0x118FF, [
    ":WhjG CIu OM:DIVES AKURU nA=AA=I=II=U=UU=E~~=O~~=KA=Kv=GA=Gv=NGA=CA=Cv=JA~=NYA=TTA~=DDA=DDv",
    "=NNA=TA=pA=DA=Dv=NA=PA=Pv=BA=Bv=MA=YA=YYA=RA=LA=VA=Sv=SSA=SA=v=LLA=ZA<VOWEL tGN AA>I>II>U>U",
    "U>E~>AI>O~~<tGN jUSVhA=CjDRABiDU=HljTA<VIRAMA<PyFIXoNASl tGN<MEDIl YA<iIul RA<MEDIl.<tGN NU",
    "KTA<xUBf DjDA<GAP FILLe<rD OF TEXT MhK~~~~~~~~~<DIGIT ZeO=kE=TWO=pyE=FOUR=FIVE=tX=SEVr=Eg=N",
    "iE"]⟩,
  ⟨0x119A0, [
    ":NjDiAGhI nA<AA<I<II<U<UU<VOClIC R=RR~~<E<AI<O<AU<KA<Kv<GA<Gv<NGA<CA<Cv<JA<Jv<NYA<TTA<TpA<D",
    "DA<DDv<NNA<TA<pA<DA<Dv<NA<PA<Pv<BA<Bv<MA<YA<RA<LA<VA<Sv<SSA<SA<v<LLA<RRA;VOWEL tGN AA=I=II=",
    "U=UU=VOClIC R>RR~~=E=AI=O=AU;tGN jUSVhA<VIShGA<VIRAMA<AVAGRAv<tDDvM;HEADSTROKE;VOWEL tGN PR",
    "ISHpAMATRA E"]⟩,
  ⟨0x11A00, [
    ":ZjABAZh SQUhwnA<VOWEL tGN I>UE>U>E>OE>O>AI>AU>yVeSoI=fNGp MhK<nKA=Kv=GA=Gv=NGA=CA=Cv=JA=NY",
    "A=TTA=TpA=DDA=DDv=NNA=TA=pA=DA=Dv=NA=PA=Pv=BA=Bv=MA=TSA=TSv=DZA=DZv=Zv=ZA=-A=YA=RA=LA=VA=Sv",
    "=SSA=SA=v=KSSA<Fil CkSkjT MhK<tGN VIRAMA=CjDRABiDU>WIp ORNAMrT=CjDRA.=jUSVhA=VIShGA<CLUSTe-",
    "iIul nRA<CLUSTe-Fil nYA>RA>LA>VA<iIul HEAD MhK<CLOSiG.<MhK TSHEG=SvD=xUBf SvD=LkG TSHEG<iIu",
    "l xUBf-LioHEAD MhK<CLOSiG.<SUBJOie~~~~~~~~:SOYOMBO nA;VOWEL tGN I=UE=U=E=O=OE=AI=AU=VOClIC ",
    "R>L<fNGp MhK;nKA<Kv<GA<Gv<NGA<CA<Cv<JA<Jv<NYA<TTA<TpA<DDA<DDv<NNA<TA<pA<DA<Dv<NA<PA<Pv<BA<B",
    "v<MA<TSA<TSv<DZA<Zv<ZA<-A<YA<RA<LA<VA<Sv<SSA<SA<v<KSSA;tGN JIHVAMULIYA<UPADHMjIYA;CLUSTe-iI",
    "ul nRA=LA=Sv=SA;Fil CkSkjT tGN G>K>NG>D>N>B>M>R>L>SH>S>-A;tGN jUSVhA<VIShGA;GEMiAuk MhK;SUB",
    "JOie;MhK TSHEG<SvD<xUBf SvD<PLUTA;HEAD MhKcMOk jD SUN jD TRIPf FLAME@SUN jD FLAME@SUN;TeMi",
    "l MhK-1<MhK-2"]⟩,
  ⟨0x11AB0, [
    ":CjADIj SYLLABICS NATuLIK HI=HII=HO=HOO=v=vA=SHRI=SHRII=SHRO=SHROO=SHRA=SHRAA<SPE<SPI<SPO<S",
    "PA:PAU Ci vU nPA>KA>LA>MA>DA>ZA>VA>NGA>v>GA>Kv>SA>BA>CA>TA>pA>NA>Pv>RA>FA>Cv>A>E>I>O>U>UA>I",
    "A>Fil P?K?T?M?N?L?W?NG?Y=RISiG TkwLkG>TkE=SjDHI GLOTTl STOP=RISiG TkwLkG Fil?Fil=SjDHI GLOT",
    "Tl STOP Fil>TkwLkG>TkE?LkG Fil?Fil=MID-fVEL TkE=GLOTTl STOP VhIjT=MID-fVEL TkwLkG Fil?Fil=L",
    "OW-FlLiG TkwLkG>TkE=GLOTTl STOP=LOW-FlLiG TkwLkG Fil?Fil=GLOTTl STOP."]⟩,
  ⟨0x11C00, [
    ":BvIKSUKI nA<AA<I<II<U<UU<VOClIC R=RR=L~<E<AI<O<AU<KA<Kv<GA<Gv<NGA<CA<Cv<JA<Jv<NYA<TTA<TpA<",
    "DDA<DDv<NNA<TA<pA<DA<Dv<NA<PA<Pv<BA<Bv<MA<YA<RA<LA<VA<Sv<SSA<SA<v;VOWEL tGN AA=I=II=U=UU=VO",
    "ClIC R>RR>L~=E=AI=O=AU;tGN CjDRABiDU<jUSVhA<VIShGA<VIRAMA<AVAGRAv;DjDA;xUBf DjDA;WORD SEPhA",
    "TOR;GAP FILLe-1<FILLe-2~~~~~~~~~~;DIGIT ZeO<kE<TWO<pyE<FOUR<FIVE<tX<SEVr<Eg<NiE;NUMBe kE<TW",
    "O<pyE<FOUR<FIVE<tX<SEVr<Eg<NiE<Tr<TWrTY<pIRTY<FORTY<FIFTY<tXTY<SEVrTY<EgY<NiETY;HUNDyDS UNI",
    "T MhK~~~:MhCHr HEAD MhK;MhK SvD;nKA<Kv<GA<NGA<CA<Cv<JA<NYA<TA<pA<DA<NA<PA<Pv<BA<MA<TSA<TSv<",
    "DZA<WA<Zv<ZA<-A<YA<RA<LA<Sv<SA<v<A~~;SUBJOionKA=Kv=GA=NGA=CA=Cv=JA=NYA=TA=pA=DA=NA=PA=Pv=BA",
    "=MA=TSA=TSv=DZA=WA=Zv=ZA~=YA=RA=LA=Sv=SA=v=A;VOWEL tGN AA=I=U=E=O;tGN jUSVhA<CjDRABiDU"]⟩,
  ⟨0x11D00, [
    ":MAShAM GkDI nA=AA=I=II=U=UU=E~=AI=O~=AU=KA=Kv=GA=Gv=NGA=CA=Cv=JA=Jv=NYA=TTA=TpA=DDA=DDv=NN",
    "A=TA=pA=DA=Dv=NA=PA=Pv=BA=Bv=MA=YA=RA=LA=VA=Sv=SSA=SA=v=LLA=KSSA=JNYA=TRA<VOWEL tGN AA>I>II",
    ">U>UU>VOClIC R~~~>E~>AI>O~>AU<tGN jUSVhA=VIShGA=NUKTA=CjDRA=HljTA<VIRAMA<yPv<RA-KhA~~~~~~~~",
    "<DIGIT ZeO=kE=TWO=pyE=FOUR=FIVE=tX=SEVr=Eg=NiE~~~~~~:GUNJlA GkDI nA=AA=I=II=U=UU~=EE=AI~=OO",
    "=AU=YA=VA=BA=Bv=MA=KA=Kv=TA=pA=LA=GA=Gv=DA=Dv=NA=CA=Cv=TTA=TpA=LLA=JA=Jv=DDA=DDv=NGA=PA=Pv=",
    "v=RA=SA<VOWEL tGN AA>I>II>U>UU~>EE>AI~>OO>AU<tGN jUSVhA=VIShGA<VIRAMA<OM~~~~~~~<DIGIT ZeO=k",
    "E=TWO=pyE=FOUR=FIVE=tX=SEVr=Eg=NiE"]⟩,
  ⟨0x11EE0, [
    ":MAKASh nKA<GA<NGA<PA<BA<MA<TA<DA<NA<CA<JA<NYA<YA<RA<LA<VA<SA<A;jGKA;VOWEL tGN I=U=E=O;PASt",
    "MBjG;rD OF SECuk"]⟩,
  ⟨0x11FB0, [
    ":LISU nYv"]⟩,
  ⟨0x11FC0, [
    ":TAMIL FRACuk kwpyE-HUNDyD-jD-TWruEp=kE-HUNDyD-jD-tXuEp=EgIEp=tXTY-FOURp=FORuEp=pIRTY-SECkD",
    "<pywEgIEpS=tXTY-FOURpS<kwTWruEp=tXTErp-1=tXTErp-2=Trp=EgH<pywTWruEpS=tXTErpS<kwFIFp=QUhTe=H",
    "lF-1=HlF-2<pywQUhTeS<xWNSCliG FACTOR KIIZH;tGN NEL<CEVITU<AAZvAKKU<UZvKKU<MUUVUZvKKU<KURUNI",
    "<PApAKKU<MUKKURUNI<KAACU<PjAM<Pk<VhAAKj<PAhAM<KUZHI<VELI;WET CULuVAuk tGN;DRY.;LjD tGN;SlT ",
    "Pj tGN;TRADIukl CyDIT.<NUMBe.;CURRrT tGN;jD ODD tGN;SPrT tGN;TOTl.;i POSSEStk tGN;SThTiG FR",
    "OM.;tGN MUplIYA<VAKAIYhAA"]⟩,
  ⟨0x11FFF, [
    ":TAMIL PUNCTUAuk rD OF TEXT:CUNEIFORM tGN A=uMES A>BAD>Gj2 TrU>v>IGI>LAGh GUNU>MUSH>SAG<A2<",
    "AB=uMES ASH2>DUN3 GUNU>Gl>Gj2 TrU>v>IGI GUNU>IMi>LAGAB>SHESH>U PLUS U PLUS U=GUNU<AB2=uMES ",
    "BlAG>Gj2 TrU>MwPLUS r>Sv3>TAK4<AD<AK=uMES ei2>SHITA PLUS GISH<l=uMES l>DIM2>GISH>v>KAD3>KI>",
    "SHE>USH<lj<AfPH<AMh=uMES SHE<j=OVe j=pywuMES=PLUS NAGA OPPOSiG j PLUS NAGA?SQUhED<jSHE<APi<",
    "hAD=uMES KUR<hKAB<ASl2<ASH=ZIDA TrU=KABA.=OVe ASH TUG2 OVe TUG2 TUG2 OVe TUG2 PAP?OVe ASH@A",
    "SH CROSSiG ASH OVe ASH OVe ASH<ASH2<ASHGAB<BA<BAD<BAG3<BAHh2<Bl=OVe Bl<BlAG<Bh<BhA2<BI=uME",
    "S A>Gh>IGI GUNU<BU=OVe BU AB?UN=CROSSiG BU<BULUG=OVe BULUG<BUR<BUR2<DA<DAG=KItM5 uMES A PLU",
    "S MASH?AMh?BlAG?BI?GA@PLUS MASH?GI?GIR2?GUD?v?IR@PLUS LU?KAK?LA?LU@PLUS MASH2?LUM?NE?PAP PL",
    "US PAP?t?TAK4?U2 PLUS GIR2?USH<DAM<Dh<DhA3<DhA4<DI<DIB<DIM=uMES SHE<DIM2<Di=KASKl U GUNU DI",
    "SH<DISH<DU=OVe DU=GUNU=SHESHIG<DUB=uMES ESH2<DUB2<DUG<DUGUD<DUH<DUN<DUN3=GUNU>GUNU<DUN4<DUR",
    "2<E=uMES PAP=OVe wNUN OVe NUN<E2=uMES A PLUS v PLUS DA>Gh>MI>Sl>SHE>U<EDi<EGIR<EL<r=uMES Gj",
    "2?TrU>ME=CROSSiG r=OPPOSiG.=SQUhED<er<ei2<ESH2<EZr=uMES A?PLUS Ll@Ll uMES Ll>j>BAD>DUN3 GUN",
    "U@GUNU>v?GUNU>IGI.>KASKl?SQUhED>KU3>LA>Ll uMES Ll>LI>LU>U2>UD<GA=GUNU<GA2=uMES A PLUS DA PL",
    "US v@v@IGI>AB2 TrU PLUS TAB>j>ASH>ASH2 PLUS Gl>BAD>Bh PLUS RA>BUR?PLUS RA>DA>DI>DIM uMES SH",
    "E>DUB>EL?PLUS LA>r?uMES Gj2 TrU>Gj2 TrU>Gh>GI>GI4?PLUS A>GIR2 PLUS SU>v PLUS LU PLUS ESH2>H",
    "l?PLUS LA>HI PLUS LI>HUB2>IGI GUNU>ISH PLUS HU PLUS ASH>KAK>KASKl>KID?PLUS Ll>KU3 PLUS j>LA",
    ">MwPLUS r>MI>NUN?OVe NUN>PA>Sl>Sh>SHE?PLUS TUR>SHID>SUM>TAK4>U>UD?PLUS DU=OVe GA2<GABA=CROS",
    "SiG GABA<GAD=OVe GAD Gh OVe Gh<Gl=GAD OVe GAD Gh OVe Gh<GlAM<GAM<Gj<Gj2=TrU=OVe Gj2=CROSSiG",
    ".<Gh<Gh3<GASHj<GESHTi=uMES KUR<GI=uMES E>U=CROSSiG GI<GI4=OVe GI4=CROSSiG.<GIDIM<GIR2=GUNU<",
    "GIR3=uMES A PLUS IGI>Gj2 TrU>IGI>LU PLUS IGI>PA<GISl<GISH=CROSSiG GISH=uMES BAD>TAK4=TrU<GU",
    "=CROSSiG GU<GU2=uMES KAK?uMES IGI GUNU>NUN>Sl PLUS TUG2=GUNU<GUD=uMES A PLUS KUR>KUR=OVe GU",
    "D LUGl<GUL<GUM=uMES SHE<GUR<GUR7<GURUN<GURUSH<v=TrU=GUNU<Hl<HI=uMES ASH>ASH2>BAD>DISH>GAD>K",
    "i>NUN>SHE>U<HU<HUB2=uMES j>Hl>KASKl>LISH>UD<HUL2<I=A<IB<IDIM=OVe IDIM BUR?SQUhED<IG<IGI=DIB",
    "=RI=OVe IGI SHIR OVe SHIR UD OVe UD=GUNU<IL=uMES Gj2 TrU<IL2<IM=uMES TAK4=CROSSiG IM=OPPOSi",
    "G.=SQUhED<IMi<i<IR<ISH<KA=uMES A>AD?PLUS KU3>ASH2>BAD>BlAG>Bh>BI>ei2>ESH2>GA>Gl>Gj2 TrU>Gh?",
    "PLUS Sv3 PLUS A>GI>GIR2>GISH PLUS Sh?CROSSiG GISH>GU>GUR7>IGI>IM>KAK>KI>KID>LI>LU>ME?PLUS D",
    "U@GI@TE>MI?PLUS NUNUZ>NE>NUN>PI>RU>SA>Sh>Sv>SHE>SHID>SHU>tG>SUHUR>Th>U>U2>UD>UMUM uMES PA>U",
    "SH>ZI<KA2=CROSSiG KA2<KAB<KAD2<KAD3<KAD4<KAD5=OVe KAD5<KAK=uMES IGI GUNU<Kl=uMES BAD=CROSSi",
    "G Kl<KAM2<KAM4<KASKl=LAGAB uMES U OVe LAGAB uMES U=OVe KASKl LAGAB uMES U OVe LAGAB uMES U<",
    "KESH2<KI=uMES BAD>U>UD<KID<Ki<KISl<KISH<KItM5=OVe KItM5<KU=OVe HI uMES ASH2 KU OVe HI uMES ",
    "ASH2<KU3<KU4=VhIjT FORM<KU7<KUL=GUNU<KUN<KUR=OPPOSiG KUR<KUSHU2<KWU318<LA<LAGAB=uMES A?PLU",
    "S DA PLUS v@Gh@Ll>l>j>ASH ZIDA TrU>BAD>BI>Dh>r>GA>Gh>GUD?PLUS GUD>v>Hl>HI uMES NUN>IGI GUNU",
    ">IM?PLUS v@LU>KI>Ki>KU3>KUL?PLUS HI PLUS A>LAGAB>LISH>LU>LUL>ME?PLUS r>MUSH>NE>SHwPLUS SUM>",
    "SHITA PLUS GISH PLUS ei2@GISH TrU>SHU2?PLUS SHU2>SUM>TAG>TAK4>TwPLUS A PLUS SU PLUS NA>U?PL",
    "US A@U PLUS U>U2 PLUS ASH>UD>USH=SQUhED<LAGh=uMES SHE?PLUS SUM=GUNU>OVe LAGh GUNU SHE<LAHSH",
    "U<Ll=uMES Ll<LAM=uMES KUR?PLUS RU<LI<LIL<LIMMU2<LISH<LU=uMES BAD<LU2=uMES l>BAD>ESH2?TrU>Gj",
    "2.>HI uMES BAD>IM>KAD2>KAD3?PLUS ASH>KI>LA PLUS ASH>LAGAB>MwPLUS r>NE>NU>t PLUS ASH>tK2 PLU",
    "S BU>TUG2=TrU=CROSSiG LU2=OPPOSiG.=SQUhED=SHESHIG<LU3<LUGl=OVe LUGl=OPPOSiG.=SHESHIG<LUH<LU",
    "L<LUM=OVe LUM?Gh OVe Gh<MA=uMES TAK4=GUNU<MA2<MAH<Mh<MASH<MASH2<ME<MES<MI<Mi<MU=OVe MU<MUG=",
    "GUNU<MUNSUB<MURGU2<MUSH=uMES A>KUR>ZA=OVe MUSH?uMES A PLUS NA=CROSSiG MUSH<MUSH3=uMES A?PLU",
    "S DI>DI=GUNU<NA<NA2<NAGA=iVeTED=uMES SHU TrU=OPPOSiG NAGA<NAGh<NAM NUuLLU<NAM<NAM2<NE=uMES ",
    "A>UD=SHESHIG<NI=uMES E<NI2<NIM=uMES Gj2 TrU>Gh PLUS Gj2 TrU<NiDA2=uMES j>ASH?PLUS ASH>GUD>M",
    "wPLUS Gj2 TrU>NE>NUN>SHE?PLUS A j@ASH@ASH PLUS ASH>U2 PLUS ASH>USH<NISAG<NU<NU11<NUN=LAGh u",
    "MES Gh?MASH?Sl@OVe NUN LAGh uMES Sl?USH=TrU=OVe NUN=CROSSiG.?LAGh OVe LAGh<NUNUZ=AB2 uMES A",
    "SHGAB?BI?DUG?GUD?IGI GUNU?KAD3?LA?NE?tLA3?U2=KItM5 uMES BI@U<PA<PAD<Pj<PAP<PESH2<PI=uMES A>",
    "AB>BI>BU>E>I>IB>U>U2=CROSSiG PI<PIRIG=uMES Kl>UD>ZA=OPPOSiG PIRIG<RA<RAB<RI<RU<SA<SAG NUuLL",
    "U<SAG=uMES A>DU>DUB>v>KAK>KUR>LUM>MI>NUN>Sl>SHID>TAB>U2>UB>UM>UR>USH=OVe SAG=GUNU<Sl=LAGAB ",
    "uMES ASH2<SjGA2<Sh<Sv<Sv3=uMES A>BAD>GISH>NE>SHU2>TUR>U?PLUS A<Sv6<SvB6<SHh2<SHE=HU=OVe SHw",
    "GAD OVe GAD Gh OVe Gh?TAB OVe TAB.<SHEG9<SHr<SHESH<SHESH2<SHESHLAM<SHID=uMES A>IM<SHIM=uME",
    "S A>Bl>BULUG>Di>Gh>IGI?GUNU>KUSHU2>LUL>MUG>Sl<SHiIG<SHIR=TrU=OVe SHIR BUR OVe BUR<SHITA<SHU",
    "=OVe iVeToSHU<SHU2<SHUBUR<t=GUNU<tG<tG4=OVe tG4 SHU2<tK2<tLA3<SU=OVe SU<SUD<SUD2<SUHUR<SUM<",
    "SUMASH<SUR<SUR9<TA=ASTeISK=uMES HI>MI=GUNU<TAB=OVe TAB NI OVe NI DISH OVe DISH=SQUhED<TAG=u",
    "MES BI>GUD>SHE>SHU>TUG2>UD<TAK4<Th<TE=GUNU<u=TrU<uL<uR=uMES TAK4=OVe uR?GAD OVe GAD Gh OVe ",
    "Gh<TU<TUG2<TUK<TUM<TUR=OVe TUR ZA OVe ZA<U=GUD=U U=OVe U PA OVe PA Gh OVe Gh?SUR OVe SUR?U ",
    "yVeSoOVe U yVeSED<U2<UB<UD=KUSHU2=uMES BAD>MI>U PLUS U PLUS U@U PLUS U GUNU=GUNU=SHESHIG>uM",
    "ES BAD<UDUG<UM=uMES LAGAB>MwPLUS DA>Sv3>U<UMBi<UMUM=uMES KASKl>PA<UN=GUNU<UR=CROSSiG UR=SHE",
    "SHIG<UR2=uMES A PLUS v@NA>l>v>NUN>U2?PLUS ASH@BI<UR4<URI<URI3<URU=uMES A>ASHGAB>Bh>DUN>GA>G",
    "l>Gj2 TrU>Gh>GU>v>IGI>IM>ISH>KI>LUM>Mi>PA>SHE>tG4>TU>U PLUS GUD>UD>URUDA<URUDA=uMES U<USH=u",
    "MES A>KU>KUR>TAK4<USHX<USH2<USHUMX<UTUKI<UZ3=uMES KASKl<UZU<ZA=TrU=SQUhouMES KUR<ZAG<ZAMX<Z",
    "E2<ZI=OVe ZI<ZI3<ZIB=KABA TrU<ZIG<ZIZ2<ZU<ZU5=uMES A<ZUBUR<ZUM<KAP ELAMITE<AB uMES NUN<AB2 ",
    "uMES A<AMh uMES KUG<DAG KItM5 uMES U2 PLUS MASH<DAG3<DISH PLUS SHU<DUB uMES SHE<EZr uMES GU",
    "D>SHE<GA2 uMES j PLUS KAK PLUS A>ASH2<GE22<GIG<HUSH<KA uMES jSHE>ASH3>GISH>GUD>HI uMES ASH2",
    ">LUM>PA>SHUL>TU>UR2<LAGAB uMES GI<LU2 SHESHIG uMES BAD=uMES ESH2 PLUS Ll>SHU<MESH<MUSH3 uME",
    "S ZA<NA4<Ni<Ni9<NiDA2 uMES Bl>GI<NU11 ROTAToNiETY DEGyES<PESH2 ASTeISK<PIR2<SAG uMES IGI GU",
    "NU<u2<UM uMES ME<U U"]⟩,
  ⟨0x12400, [
    ":CUNEIFORM NUMeIC tGN TWO ASH=pyE.=FOUR.=FIVE.=tX.=SEVr.=Eg.=NiE.=pywDISH=FOUR.=FIVE.=tX.=S",
    "EVr.=Eg.=NiE.=FOUR U=FIVE.=tX.=SEVr.=Eg.=NiE.=kwGESH2=TWO.=pyE.=FOUR.=FIVE.=tX.=SEVr.=Eg.=N",
    "iE.=kwGESHU=TWO.=pyE.=FOUR.=FIVE.=TWO SHh2=pyE.?VhIjT FORM=FOUR SHh2=FIVE.=tX.=SEVr.=Eg.=Ni",
    "E.=kwSHhU=TWO.=pyE.?VhIjT FORM=FOUR SHhU=FIVE.=SHh2 uMES Gl PLUS DISH@PLUS Mi=kwBURU=TWO.=p",
    "yE.?VhIjT FORM=FOUR BURU=FIVE.=pywVhIjT FORM ESH16@ESH21=FOUR VhIjT FORM LIMMU@LIMMU4@LIMM",
    "U A@LIMMU B=tX VhIjT FORM ASH9=SEVr VhIjT FORM IMi3@IMi A@IMi B=Eg VhIjT FORM USSU@USSU3=Ni",
    "wVhIjT FORM ILIMMU@ILIMMU3@ILIMMU4@ILIMMU A=TWO ASH TrU=pyE.=FOUR.=FIVE.=tX.=kwBj2=TWO.=pyE",
    ".=FOUR.?VhIjT FORM=FIVwBj2?VhIjT FORM=NIGIDAMi=NIGIDAESH=kwESHE3=TWO.=kwpIRD DISH=TWO pIRDS",
    ".=FIVwtXpS.=kwpIRD VhIjT FORM A=TWO pIRDS.=kwEgH ASH>QUhTe.=OLD ASSYRIj kwtXp@QUhTe=kwQUhT",
    "e GUR>HlF.=ELAMITwkwpIRD>TWO pIRDS>FORTY>FIFTY=FOUR U VhIjT FORM=FIVE.=tX.=SEVr.=Eg.=NiE.~;",
    "PUNCTUAuk tGN OLD ASSYRIj WORD DIVIDe=VeuCl COLk=DIAGkl.>TRICOLk>QUADCOLk~~~~~~~~~~~;tGN A",
    "B uMES NUN TrU>SHU2<AD uMES ESH2<BAD uMES DISH TrU<BAHh2 uMES AB2>NI>ZA<BU OVe BU uMES NA2<",
    "DA uMES TAK4<DAG uMES KUR<DIM uMES IGI>U U U<DIM2 uMES UD<DUG uMES jSHE>ASH?AT fFT>Di>DUN>e",
    "i2>GA>GI>GIR2 GUNU>GISH>v>HI>IGI GUNU>KASKl>KUR>KUSHU2?PLUS KASKl>LAK-020>LAM?uMES KUR>LUH ",
    "PLUS GISH>MASH>MES>MI>NI>PI>SHE>t GUNU<E2 uMES KUR>PAP<ei2 X<ESH2 CROSSiG ESH2<EZr SHESHIG ",
    "uMES ASH?HI?IGI GUNU?LA?Ll?ME?MES?SU=uMES SU<GA2 uMES BAHh2>DIM GUNU>DUG uMES IGI GUNU@KASK",
    "l>er>GA>Gh PLUS DI@NE>v PLUS A>KUSHU2 PLUS KASKl>LAM?uMES KUR>LUH>MUSH>NE?PLUS E2@GI>SHIM>Z",
    "IZ2<GABA ROTAToNiETY DEGyES<GESHTi uMES U<GISH uMES GISH CROSSiG GISH<GU2 uMES IGI GUNU<GU",
    "D PLUS GISH uMES TAK4<v TrU GUNU<HI uMES ASH OVe HI uMES ASH<KA uMES BU>KA>U U U>UR<LAGAB u",
    "MES ZU OVe ZU<LAK-003<LAK-021<LAK-025<LAK-030<LAK-050<LAK-051<LAK-062<LAK-079 OVe LAK-079 G",
    "UNU<LAK-080<LAK-081 OVe LAK-081<LAK-092<LAK-130<LAK-142<LAK-210<LAK-219<LAK-220<LAK-225<LAK",
    "-228<LAK-238<LAK-265<LAK-266<LAK-343<LAK-347<LAK-348<LAK-383<LAK-384<LAK-390<LAK-441<LAK-44",
    "9=uMES GU>IGI>PAP PLUS LU3@PAP PLUS LU3>U2 PLUS BA<LAK-450<LAK-457<LAK-470<LAK-483<LAK-490<",
    "LAK-492<LAK-493<LAK-495<LAK-550<LAK-608<LAK-617=uMES ASH>BAD>DUN3 GUNU GUNU>KU3>LA>Th>TE>U2",
    ">UD>URUDA<LAK-636<LAK-648=uMES DUB>GA>IGI?GUNU>NI>PAP PLUS PAP PLUS LU3>SHESH PLUS KI>UD>UR",
    "UDA<LAK-724<LAK-749<LU2 GUNU uMES ASH=uMES DISH>Hl>PAP?PLUS PAP PLUS LU3>TAK4<MI PLUS ZA7<M",
    "USH OVe MUSH uMES GA@KAK<NiDA2 uMES DIM GUNU>GISH>GUL>HI>KESH2>LAK-050>MASH>PAP PLUS PAP>U?",
    "PLUS U>URUDA<SAG GUNU uMES v=uMES r>SHwAT fFT>TAK4<Sv6 TrU<SHwOVe SHE=PLUS HUB2>NAM2>Sh<SHU",
    "2 PLUS DUG uMES NI>E2 uMES j<t uMES TAK4<TAK4 PLUS SAG<TUM uMES Gj2 TrU>pywDISH<UR2 iVeTED=",
    "uMES UD<URU uMES DhA3>LAK-668>LU3<ZA7<ZU OVe ZU PLUS Sh<ZU5 uMES pywDISH TrU"]⟩,
  ⟨0x12F90, [
    ":CYPRO-MiOj tGN CM001<CM002<CM004<CM005<CM006<CM007<CM008<CM009<CM010<CM011<CM012<CM012B<CM",
    "013<CM015<CM017<CM019<CM021<CM023<CM024<CM025<CM026<CM027<CM028<CM029<CM030<CM033<CM034<CM0",
    "35<CM036<CM037<CM038<CM039<CM040<CM041<CM044<CM046<CM047<CM049<CM050<CM051<CM052<CM053<CM05",
    "4<CM055<CM056<CM058<CM059<CM060<CM061<CM062<CM063<CM064<CM066<CM067<CM068<CM069<CM070<CM071",
    "<CM072<CM073<CM074<CM075<CM075B<CM076<CM078<CM079<CM080<CM081<CM082<CM083<CM084<CM085<CM086",
    "<CM087<CM088<CM089<CM090<CM091<CM092<CM094<CM095<CM096<CM097<CM098<CM099<CM100<CM101<CM102<",
    "CM103<CM104<CM105<CM107<CM108<CM109<CM110<CM112<CM114<CM301<CM302"]⟩,
  ⟨0x13000, [
    ":EGYPuj HIeOGLYPH A001<A002<A003<A004<A005<A005A<A006<A006A<A006B<A007<A008<A009<A010<A011<",
    "A012<A013<A014<A014A<A015<A016<A017<A017A<A018<A019<A020<A021<A022<A023<A024<A025<A026<A027",
    "<A028<A029<A030<A031<A032<A032A<A033<A034<A035<A036<A037<A038<A039<A040<A040A<A041<A042<A04",
    "2A<A043<A043A<A044<A045<A045A<A046<A047<A048<A049<A050<A051<A052<A053<A054<A055<A056<A057<A",
    "058<A059<A060<A061<A062<A063<A064<A065<A066<A067<A068<A069<A070<B001<B002<B003<B004<B005<B0",
    "05A<B006<B007<B008<B009<C001<C002<C002A<C002B<C002C<C003<C004<C005<C006<C007<C008<C009<C010",
    "<C010A<C011<C012<C013<C014<C015<C016<C017<C018<C019<C020<C021<C022<C023<C024<D001<D002<D003",
    "<D004<D005<D006<D007<D008<D008A<D009<D010<D011<D012<D013<D014<D015<D016<D017<D018<D019<D020",
    "<D021<D022<D023<D024<D025<D026<D027<D027A<D028<D029<D030<D031<D031A<D032<D033<D034<D034A<D0",
    "35<D036<D037<D038<D039<D040<D041<D042<D043<D044<D045<D046<D046A<D047<D048<D048A<D049<D050<D",
    "050A<D050B<D050C<D050D<D050E<D050F<D050G<D050H<D050I<D051<D052<D052A<D053<D054<D054A<D055<D",
    "056<D057<D058<D059<D060<D061<D062<D063<D064<D065<D066<D067<D067A<D067B<D067C<D067D<D067E<D0",
    "67F<D067G<D067H<E001<E002<E003<E004<E005<E006<E007<E008<E008A<E009<E009A<E010<E011<E012<E01",
    "3<E014<E015<E016<E016A<E017<E017A<E018<E019<E020<E020A<E021<E022<E023<E024<E025<E026<E027<E",
    "028<E028A<E029<E030<E031<E032<E033<E034<E034A<E036<E037<E038<F001<F001A<F002<F003<F004<F005",
    "<F006<F007<F008<F009<F010<F011<F012<F013<F013A<F014<F015<F016<F017<F018<F019<F020<F021<F021",
    "A<F022<F023<F024<F025<F026<F027<F028<F029<F030<F031<F031A<F032<F033<F034<F035<F036<F037<F03",
    "7A<F038<F038A<F039<F040<F041<F042<F043<F044<F045<F045A<F046<F046A<F047<F047A<F048<F049<F050",
    "<F051<F051A<F051B<F051C<F052<F053<G001<G002<G003<G004<G005<G006<G006A<G007<G007A<G007B<G008",
    "<G009<G010<G011<G011A<G012<G013<G014<G015<G016<G017<G018<G019<G020<G020A<G021<G022<G023<G02",
    "4<G025<G026<G026A<G027<G028<G029<G030<G031<G032<G033<G034<G035<G036<G036A<G037<G037A<G038<G",
    "039<G040<G041<G042<G043<G043A<G044<G045<G045A<G046<G047<G048<G049<G050<G051<G052<G053<G054<",
    "H001<H002<H003<H004<H005<H006<H006A<H007<H008<I001<I002<I003<I004<I005<I005A<I006<I007<I008",
    "<I009<I009A<I010<I010A<I011<I011A<I012<I013<I014<I015<K001<K002<K003<K004<K005<K006<K007<K0",
    "08<L001<L002<L002A<L003<L004<L005<L006<L006A<L007<L008<M001<M001A<M001B<M002<M003<M003A<M00",
    "4<M005<M006<M007<M008<M009<M010<M010A<M011<M012<M012A<M012B<M012C<M012D<M012E<M012F<M012G<M",
    "012H<M013<M014<M015<M015A<M016<M016A<M017<M017A<M018<M019<M020<M021<M022<M022A<M023<M024<M0",
    "24A<M025<M026<M027<M028<M028A<M029<M030<M031<M031A<M032<M033<M033A<M033B<M034<M035<M036<M03",
    "7<M038<M039<M040<M040A<M041<M042<M043<M044<N001<N002<N003<N004<N005<N006<N007<N008<N009<N01",
    "0<N011<N012<N013<N014<N015<N016<N017<N018<N018A<N018B<N019<N020<N021<N022<N023<N024<N025<N0",
    "25A<N026<N027<N028<N029<N030<N031<N032<N033<N033A<N034<N034A<N035<N035A<N036<N037<N037A<N03",
    "8<N039<N040<N041<N042<NL001<NL002<NL003<NL004<NL005<NL005A<NL006<NL007<NL008<NL009<NL010<NL",
    "011<NL012<NL013<NL014<NL015<NL016<NL017<NL017A<NL018<NL019<NL020<NU001<NU002<NU003<NU004<NU",
    "005<NU006<NU007<NU008<NU009<NU010<NU010A<NU011<NU011A<NU012<NU013<NU014<NU015<NU016<NU017<N",
    "U018<NU018A<NU019<NU020<NU021<NU022<NU022A<O001<O001A<O002<O003<O004<O005<O005A<O006<O006A<",
    "O006B<O006C<O006D<O006E<O006F<O007<O008<O009<O010<O010A<O010B<O010C<O011<O012<O013<O014<O01",
    "5<O016<O017<O018<O019<O019A<O020<O020A<O021<O022<O023<O024<O024A<O025<O025A<O026<O027<O028<",
    "O029<O029A<O030<O030A<O031<O032<O033<O033A<O034<O035<O036<O036A<O036B<O036C<O036D<O037<O038",
    "<O039<O040<O041<O042<O043<O044<O045<O046<O047<O048<O049<O050<O050A<O050B<O051<P001<P001A<P0",
    "02<P003<P003A<P004<P005<P006<P007<P008<P009<P010<P011<Q001<Q002<Q003<Q004<Q005<Q006<Q007<R0",
    "01<R002<R002A<R003<R003A<R003B<R004<R005<R006<R007<R008<R009<R010<R010A<R011<R012<R013<R014",
    "<R015<R016<R016A<R017<R018<R019<R020<R021<R022<R023<R024<R025<R026<R027<R028<R029<S001<S002",
    "<S002A<S003<S004<S005<S006<S006A<S007<S008<S009<S010<S011<S012<S013<S014<S014A<S014B<S015<S",
    "016<S017<S017A<S018<S019<S020<S021<S022<S023<S024<S025<S026<S026A<S026B<S027<S028<S029<S030",
    "<S031<S032<S033<S034<S035<S035A<S036<S037<S038<S039<S040<S041<S042<S043<S044<S045<S046<T001",
    "<T002<T003<T003A<T004<T005<T006<T007<T007A<T008<T008A<T009<T009A<T010<T011<T011A<T012<T013<",
    "T014<T015<T016<T016A<T017<T018<T019<T020<T021<T022<T023<T024<T025<T026<T027<T028<T029<T030<",
    "T031<T032<T032A<T033<T033A<T034<T035<T036<U001<U002<U003<U004<U005<U006<U006A<U006B<U007<U0",
    "08<U009<U010<U011<U012<U013<U014<U015<U016<U017<U018<U019<U020<U021<U022<U023<U023A<U024<U0",
    "25<U026<U027<U028<U029<U029A<U030<U031<U032<U032A<U033<U034<U035<U036<U037<U038<U039<U040<U",
    "041<U042<V001<V001A<V001B<V001C<V001D<V001E<V001F<V001G<V001H<V001I<V002<V002A<V003<V004<V0",
    "05<V006<V007<V007A<V007B<V008<V009<V010<V011<V011A<V011B<V011C<V012<V012A<V012B<V013<V014<V",
    "015<V016<V017<V018<V019<V020<V020A<V020B<V020C<V020D<V020E<V020F<V020G<V020H<V020I<V020J<V0",
    "20K<V020L<V021<V022<V023<V023A<V024<V025<V026<V027<V028<V028A<V029<V029A<V030<V030A<V031<V0",
    "31A<V032<V033<V033A<V034<V035<V036<V037<V037A<V038<V039<V040<V040A<W001<W002<W003<W003A<W00",
    "4<W005<W006<W007<W008<W009<W009A<W010<W010A<W011<W012<W013<W014<W014A<W015<W016<W017<W017A<",
    "W018<W018A<W019<W020<W021<W022<W023<W024<W024A<W025<X001<X002<X003<X004<X004A<X004B<X005<X0",
    "06<X006A<X007<X008<X008A<Y001<Y001A<Y002<Y003<Y004<Y005<Y006<Y007<Y008<Z001<Z002<Z002A<Z002",
    "B<Z002C<Z002D<Z003<Z003A<Z003B<Z004<Z004A<Z005<Z005A<Z006<Z007<Z008<Z009<Z010<Z011<Z012<Z01",
    "3<Z014<Z015<Z015A<Z015B<Z015C<Z015D<Z015E<Z015F<Z015G<Z015H<Z015I<Z016<Z016A<Z016B<Z016C<Z0",
    "16D<Z016E<Z016F<Z016G<Z016H<AA001<AA002<AA003<AA004<AA005<AA006<AA007<AA007A<AA007B<AA008<A",
    "A009<AA010<AA011<AA012<AA013<AA014<AA015<AA016<AA017<AA018<AA019<AA020<AA021<AA022<AA023<AA",
    "024<AA025<AA026<AA027<AA028<AA029<AA030<AA031<AA032~<VeuCl JOie<HORIZkTl.<iSeT AT TOP SThT>",
    "BOTTOM.>TOP rD>BOTTOM.<OVeLAY MIDDf<BEGi SEGMrT<rD."]⟩,
  ⟨0x14400, [
    ":jATOLIj HIeOGLYPH A001<A002<A003<A004<A005<A006<A007<A008<A009<A010<A010A<A011<A012<A013<A",
    "014<A015<A016<A017<A018<A019<A020<A021<A022<A023<A024<A025<A026<A026A<A027<A028<A029<A030<A",
    "031<A032<A033<A034<A035<A036<A037<A038<A039<A039A<A040<A041<A041A<A042<A043<A044<A045<A045A",
    "<A046<A046A<A046B<A047<A048<A049<A050<A051<A052<A053<A054<A055<A056<A057<A058<A059<A060<A06",
    "1<A062<A063<A064<A065<A066<A066A<A066B<A066C<A067<A068<A069<A070<A071<A072<A073<A074<A075<A",
    "076<A077<A078<A079<A080<A081<A082<A083<A084<A085<A086<A087<A088<A089<A090<A091<A092<A093<A0",
    "94<A095<A096<A097<A097A<A098<A098A<A099<A100<A100A<A101<A101A<A102<A102A<A103<A104<A104A<A1",
    "04B<A104C<A105<A105A<A105B<A106<A107<A107A<A107B<A107C<A108<A109<A110<A110A<A110B<A111<A112",
    "<A113<A114<A115<A115A<A116<A117<A118<A119<A120<A121<A122<A123<A124<A125<A125A<A126<A127<A12",
    "8<A129<A130<A131<A132<A133<A134<A135<A135A<A136<A137<A138<A139<A140<A141<A142<A143<A144<A14",
    "5<A146<A147<A148<A149<A150<A151<A152<A153<A154<A155<A156<A157<A158<A159<A160<A161<A162<A163",
    "<A164<A165<A166<A167<A168<A169<A170<A171<A172<A173<A174<A175<A176<A177<A178<A179<A180<A181<",
    "A182<A183<A184<A185<A186<A187<A188<A189<A190<A191<A192<A193<A194<A195<A196<A197<A198<A199<A",
    "200<A201<A202<A202A<A202B<A203<A204<A205<A206<A207<A207A<A208<A209<A209A<A210<A211<A212<A21",
    "3<A214<A215<A215A<A216<A216A<A217<A218<A219<A220<A221<A222<A223<A224<A225<A226<A227<A227A<A",
    "228<A229<A230<A231<A232<A233<A234<A235<A236<A237<A238<A239<A240<A241<A242<A243<A244<A245<A2",
    "46<A247<A248<A249<A250<A251<A252<A253<A254<A255<A256<A257<A258<A259<A260<A261<A262<A263<A26",
    "4<A265<A266<A267<A267A<A268<A269<A270<A271<A272<A273<A274<A275<A276<A277<A278<A279<A280<A28",
    "1<A282<A283<A284<A285<A286<A287<A288<A289<A289A<A290<A291<A292<A293<A294<A294A<A295<A296<A2",
    "97<A298<A299<A299A<A300<A301<A302<A303<A304<A305<A306<A307<A308<A309<A309A<A310<A311<A312<A",
    "313<A314<A315<A316<A317<A318<A319<A320<A321<A322<A323<A324<A325<A326<A327<A328<A329<A329A<A",
    "330<A331<A332A<A332B<A332C<A333<A334<A335<A336<A336A<A336B<A336C<A337<A338<A339<A340<A341<A",
    "342<A343<A344<A345<A346<A347<A348<A349<A350<A351<A352<A353<A354<A355<A356<A357<A358<A359<A3",
    "59A<A360<A361<A362<A363<A364<A364A<A365<A366<A367<A368<A368A<A369<A370<A371<A371A<A372<A373",
    "<A374<A375<A376<A377<A378<A379<A380<A381<A381A<A382<A383 RA OR RI<A383A<A384<A385<A386<A386",
    "A<A387<A388<A389<A390<A391<A392<A393 Eg<A394<A395<A396<A397<A398<A399<A400<A401<A402<A403<A",
    "404<A405<A406<A407<A408<A409<A410 BEGi LOGOGRAM MhK<A410A rD.<A411<A412<A413<A414<A415<A416",
    "<A417<A418<A419<A420<A421<A422<A423<A424<A425<A426<A427<A428<A429<A430<A431<A432<A433<A434<",
    "A435<A436<A437<A438<A439<A440<A441<A442<A443<A444<A445<A446<A447<A448<A449<A450<A450A<A451<",
    "A452<A453<A454<A455<A456<A457<A457A<A458<A459<A460<A461<A462<A463<A464<A465<A466<A467<A468<",
    "A469<A470<A471<A472<A473<A474<A475<A476<A477<A478<A479<A480<A481<A482<A483<A484<A485<A486<A",
    "487<A488<A489<A490<A491<A492<A493<A494<A495<A496<A497<A501<A502<A503<A504<A505<A506<A507<A5",
    "08<A509<A510<A511<A512<A513<A514<A515<A516<A517<A518<A519<A520<A521<A522<A523<A524<A525<A52",
    "6<A527<A528<A529<A530"]⟩]

end FieldSchema.Text
