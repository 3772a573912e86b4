import Transmon.Decimal

/-!
Good angles on regular trees.
-/

namespace Transmon.Ansatz.TreeAngles

/-- The rows in turn, each a number in digits. -/
def table :=
  "[@/J;?%|S8AwWp++X0HDcH7H>uF%O_`t`F//jGQt),PhaZi<]`r),cv=5dmt:df`VD4Nl_zKDX/Uk6BIHkA+KERg`wg5itLU)1E,tM1h3C81<oBsMTlr
hZD6C;0.DwiU3>LRk;xq(d~p;0['oT:)x08#=F93O7)nm@GFG;gCu(tc,Do#k;Z1v3O8$R.-JAENzt&D*Vr=r_9'vvO*:5WTW~G4el6#s9IwKa6b_as'J`^
y8$/-fMW3e-[`OdGLs@sM7zRn(T`n)l,~H5%sU:1F>QwY|5F:ku|@rTCxHJ5Ik&5'.Y]IC/33gEh<2Y@I))jW].h=rz#^~U0q`|r[iH/y=s3&tbM:nnj0=q
X#@r+[io]u g~vT/N8(J<2tbI*c1u2iW^FL]43DvGZ]Bpqb@frkID24D>I*+r$r=%t@+h$wZ_.DS.gSnQu(:x;bmD*@.!~oG+.[aaf]1Es^)@NA:b37iW~3
E?b;jky^^S1-YWf><,$,Qllr`CD`r-2m`'`#r5lyVL%?a)/&1(6^E![N?c:=46Mmu719`wK`LlE2POVv]a/%xZ`Yo<SuS@EUpzn^LO|EcTL7@kB5)lu)qHj
$1NE!_>hM'&5[LWDs1q.I-iqj:IU5a-Bllv5<#<xxX,xff6d+XgN5'*W/|Iui`0e@dnhvF$Vwnv2N@ij;5c,@25`#5m,S 1Hw4m((1F2cNWR#Y$f.m*y/$0
uQt:.f>Cp9B2X+j>lu2~5T0PNRc$#c(&*'htA@Hj)#]dA(>P5P#T-S+)EpvJIGB-(QYLb]5%)+*hpm&G8#4cZOI_jiby[mT+Z:rO;%3;/PIG;`.qCPi2h`O
6s]Hasvr|3`Ob'6xdke2VZN3@vHJLq8.de5P~9ZV9(8w<p(qEUZ~c|!EzrW,:86LJ0ucuCgm1$FX5F,O:`!81T.[KUr^]YV0_PX*N#SE>(9FP)droYnO&M
G#BZLhMU&i8b&:M0c$H~~V(mib;y(N`&~R_NdG@kk%D7kF*m:Lhh3I6F1Ri<gOxA'rrRx- 8x]=N_206iqXv4|ahr'.e]-D`C@AlP8?tlf+mk[K]GWx_SeZ
J%GPi2`gSd]e~L;Raj-z0bmf4lE=f+bEcHIN.b9&A#GqxxFwJ!*tf)nvwHx]<L%gq[@o$*DbW]Q&tZ_LbCwOdIc)&*aoV|:ZjphQFV~7~!D!Z?g'f.jB@<R
g65.`v:_O;(_tcQvHWj3W9UJ8,^+2N*t3rhPdp^b1]`)cpecL-fabU%S:;.-BPJ=r&r~L`3s:-Z69U_'JIJL5w49wXbxp>=],-(Tcmm0ZL@|-?iQeEtTh][
nZG4p)*<5Yf2Q0_;a~FyJPWdoQKJ_6&wrHjJ>,LqM%aVh#fLc_G 1n=!0TH,Wvn1PV-./Eeu'Gd/VU2jZ)CT'*(Rm8T-a?QlSQAzB,/x;S3@Qt^7B:e?rh5
d,0c$q1YV@6isvW,>|=@w-fk;s~uv!vX(twpm/0<i+t;W(71)^c=BRXJ3r<bd.6tvU5(10aA;080X24)INk4-m8>Z&Ex~[$D1'YY]@D./3!&9>7DheVEbzb
;j^+cAo9:cWc]k))I]WQ;!E_yll,/980nb#zW!uJVE:tq7c'H+^v^Mu+<MO<zb<?B`<Ejt8>l!fgG95T97i2OFdwI?TcT-NvVzMju918#DN*f+'QEMT#D:
p'1p$;yE1_6z2*MZNf@apG9s85VHNv pnFlZO(gKJcHcmJJ[my0xz=^(zggUbt$'#G.xonr-`>ic[b.Lo*=WfUC.x_~rr&L-Lmb8KE$NCT(K:7q:_F+tLj)
Q'xo3&Zv=7>GzonO:Z7g^8y#%0/M@cH%[j`Hgq@Vyp;5=qFUU)~];=Zm!4+;@emu,6F&^F3$2w-w4l57bb0;SfxxfA/~msHEx0>aKY9&sn9/Ke2~9'D^Y3Y
gFb][,54RX$DedcK:||[t|x&~$wiv%EdM@_oW3M@j/f#oRix`:Z-y^MDE20rhiu[U`cTXI1@W~uV3fM/N],a+Gb|PXexu2/0Nzw4JEO]ZA6LC@g9g:+6Vl!
m?R?qxNn&uI0 _ttpBo?+oTd!]k[YCaiC*,>6yv~2#wU~Ux$^Fp4((?60dUI,V=[[6z/wv;rF&KI;5v,9*AM):lH#dEon-PSb|GT8e%9K@#4Y|?4413=dF>
s|HjkoMQ%%v!Ldz6HL&etlTNilJj^mclDr_GF)#K9l|Ja60vv[/n.=q)*9~E:v~X<8Cx2otSi!jS+TQ;=me*Wy+0fwZ^j>HdnW;5*VO;h~yY35EJv_Z~LqH
fb[Ec%fE@cs$p1E8)A7qnZltw8<0WP+klYy5eXrU:9k>~|o$'x)iwJ5;Rd1=(r^O1fDPm1hgy;=YQQw'uChf[)oL77QY<0wG'TkM_S0]o?.YCBDDza,6 1Z
mqS/.;CE~Cgihzv/v#;l|O#(y`KJ.w+YK;*/<,z82orvrVVvhO>QuL5nQcoG!>/G&=F(:5je2P'^ZBc^13#4JD-a&,h&sMIMB~(!mInV<UBDRCY#SRPy~7B
ux2be%qV_(x*+tfTVa7EJ_TM&kKq52*3Ku43G>8wF7dw~hjPsb6pA3k9+YMj2c&QZvH4igyqRm&wO4ghgJPN*%U%Vie]SB5CjZqm68;CvA=Ip]hb#Q%']X,
5F1R`ZhK$Vtv`BxZNG2KfyZSl5&x23R?>Gqgkq3seg'|)Q46*eB:v?%E'sH@sed*(VvbTRI$6G#`<#cta%S0_B+oRd6&KP@8$U~]g)x0Vd 1A&?;4^iv43:
,m6D*FOX1*EKf2<)O:U/Wr)w!R;FXxUN(BU']EjZJG*Sb^qcw-nD#o<C4YVDp&7=yuOTk43AvbI>>U!y.eQJ3eyL?N+2lYG%-3O;iAHq*SmCJfX^<e;YWV4
kc/4>ql]B:7/0zW)sP:P^r*qAg)gP~]vRnnhB!T86A6eL7hA*t1tA~]4x;jEE!]Hv3E@JXQX6BYFLH_zAT[lhLtI'rQZ/<y:7_&>iN30AY*V%((CuumAknG
9lDeMZ-QInIpR>]Y<-6w?;`Lh2dYJs)=T.=pHK^|$pOo3i%L=]gj^'Kxv-JDcrp@N.Z'^(@4RF HJ_G5O_Woh8Aym97,PlK&Ow|5)70;A|&duL#o,lT6sb]
P(ff.u9s%q]VvRp_<<xV~9<F0%3kKl<2~R6o*^G,HAI@RE'Z>2``|('?_p#dr`&0]4e9$xospY;`UpqQN_nt>gpY'3|R'27uGN/OQ|v@t))Zv0wKZ/8?-Il
r/5INN['Vw*Mr&99O_'WdP7j$)bXB_jq$FXUMh4mhQ&`adG$Pk:A]:ap?GL%D#XKu#2+7/k(|bquBA'#ju:Dcu=Fn936:ByWx,>O^|+%HGq06tNP!6[o<WH
s$yHwyYxQiU:$* 1D^'t6ruv~Bce$|a]aSAklFWQCCmXv4_gY~+D8M&Lf/g;6*CYO-|+W@tysSM,]]Ud_;/65nXhl]C3[_Z%[?N--Mv2IyhAGa^rQ/P;$]A
i!&!IC9:|5%ACDI`7MbM88TG'3z24iz1xL+RddZvoB`9=dSt$-YXfne(v5<z?Zj=I%@0$=R+7tfIAmVg!/gnCmC>;a%.5g-pKdO^)EM1r<<]LR*2oN1jKE
l/I!WOPHFTV+&3KW_p 1hw+bJWE1W0rnTW|uvKIeETv7~!1)*aUyg`b@CgEWor_jEd^k[hgwS`jclX%b%XSyHS0F3kedx,,95N48nVYg]*J|_fq%V_d?iVy
<=$!=IH._L-]JyRXnx#(]x^&Q*W7r3#_hr^qt0;7BrY3*y'qVWKtCTcUjd?%U4Uq3%(rI+ZzOg#dMhwkZ$>Djp<&KQ6^dnlG?gw!qBtpHBfN7@-+_l`rIZz
U~RHL(f+=lsCBW5;2hG6;@>cKj1P]!%4gim>5-G$BtxG^*~=h4By:X63etY~[uS 181p]HpV/+uBu1~OVv*FT0,JYO]|)`zQ@`7bg..BeAl8;Gd>g>eX<+[
iY<o.)^l%av(9A?Y(]l~75:`s?t1d+#6@Rh(@ekzfQRZQ-Si$+aAzhb/rUTylG'6l3z3<$2$2)KgX@/s4[+AUpLV/C/k(J'k`'K5qXHM`L(O&D|.wE9!A8]
V@sEQ;<t85_*-B1oLA?`mP'+P_GC=Z^k6-44,t94u9&[dQih&V(I 2@0x'(GfA>M3;^zSxZgwO!!cTH<UdlkOKqapk`SuF@<[`6wLxot)e%%Ge7u+!#^oai
.x=/nwaFW~8%0MoGKZ/<=v).8J'Us_(NJh9l,;SL+yv8RvWqTB<h:EVvS'k<~uWp1i9lH.Wj#Ixs(H|q%5WTTE``R*ZWp]sloPHdbVi<tyZE&_iv@WwCCn7
Y7*Y64@B//5O_;h2[>b5P1SYE$<8@UY^V@oPoDEwO(_4Wi)%?dR]q6Xz+x,RB2!C5 K//q%*]>eRNn#XFq8qCoju|'SoKO_d.f?*petm2hJFOM([mA1)+`H
F'15M33s1due0($NSHc*,+Y</u7]>Za(aZbemP)jM^*&|dBxcnm3u6/w.2a:jN('7$7R(WY]`%;/D!P=VM3P#miu/g9j>V)xV7vjNs_8CVx&CZim,.cnXVe
[G:!l+(ctuGJ<IGydl0_Ix(bK*54m!cn/3^tKRn?NV=_S>*I'LcjTZHckss'PUcHM,['!&1Dox>I3[iTH>.C21UK88#%7>'7q_Z 3&7gdEmT2&*b/Ea>|cD
zW<i;4aMK<LMb(aOBd@iHl1WW)<J|Shbly?^|elrWvftI7J[+NoY~$Y@g^W`M2wd7@zy(aq],U_o;7.m6;HY[]H;;T5!#E_q]6Ik-8Q@f(2$elo+HWndu+:
*!zm-Lvp*ng,U[F@9WqUehZ0N3y20.%wF#k-=Hw,mX!5WE~Isch]6kDJ?wSU36k,^])uoo*~#G)J=!ES:8_>;?@zMfQYjZxlx$DIFbh8jquK+Qyd:9=3fRy
^k-3v@4^OO&S.cR+vB)8/EZp/vb7^?JMmeSF0m)`%[s@z9>x~-KkDF2='u;[hpe;7d/m6&FZ+lOF&cKq F9uCfvQiz50uCY&OTX7t9VwvcutZge0J%,.)Lv
5K(uMoC''`tF^~T3T*gccS1~l__Mxf%ov]_^Vu.nRJT?d;q0VzH%7Kpv~]*#nM*[BeDKbt/cua2UoV`+Hk/cmyoL_mWaZ^-kC.q@(ZF|anxeL$m_[K+6=eu
NwS++Y!W..Xwn#J[ZIPyzp7VRA2<wSa4tLp?r7!$Jzapz~[zaPy@d$>p$G^yx(-W0eqNf>ToM5cv&9;i<H7?mqmuiBL#g?2;fOB'Ezh%.(ohkl92epGGli<
MV2/Ko?nYqpTGl(^&Itrh3~LM,+F*j![l6hw.Aj4|tMi#OjTuVD^b:'pRRVBC0[?:&//+/S~S;/'Jk!@NPcX=r3yDa 5=sf#7Zjo[1HgvqA-_'wB+?P)ub-
!lMpUe.hW+MKSHnPnkzssm*w'13x7Z&!A)B+4T;:iquv<nEO-=hd[)T]+enMFX~M4PY-e]rED.3YHBbVGt`?,fGfbKZ0vqP:w8c8);_t*KywjP@/m[|:g@;
etH!Uvf3n?iPgmyhxLl4gf;Xpu~!~ZFCphak_>>o9<o^Ia4.DjNzYu;&UOqqm+XqBVd-nLPrnt=QYyc!qADz`H!zkfer9+m*?$^4n$IB~3u>E/0)g_WS^:x
FRV8>pOCY.LxH.ba&jwPIG(J,ts=4[L(w1B,h.nMM4qaffhwy^2[3i j2!w^'Bvj2+SSVsg=XfnB=HMHJ`5r-ip+6(ahT~lu2AL!OW5iHSd6bX.<a6:4T-`
rlTa<v7ujGdB%G<n2YC1YHk_;Q6<)2Q$VRVTVj^EjK+7rA$w3I#+EVs)#&C_BR;Z[@zXo=M_P<Y~/&.apP!U3*`!TWN;,BPqSFX5&EQLX/*ik!/K`O8GD:W
1E;mR>H$~DE)Hg/#wNsBpp:i?9[HwEu!CY.x:v0.pe.R$>UY^5HgyVo6i%o[0,21)(b.SJH/PF4QI6/*G#V9nq87BGg%FJD;r:pB0L$1g~&'j8^B:.[.-Io
H%Ts'O/,E7vZQBE[XDFNCQJxEab=@%A~c#. 2.Lk!d:MFg5]wFHTx^gK?>R&0E0M2gd^Oios6#;Ph>K&.]u+U,2JQNNHZ/~'Q|WuJU=+#0MW'+eg*g%r`^P
5mGu$#M|_48_H(MXpweWl6jJ36pX+3x:j|Xd(l2s8CoxZfz~mL`oE<!_>9S*xsP~IbV1uA|Z$Wqc)t#:,!n3D~&ay>k3>4APr!tV<o;1z+2Z2X;x@/&vL$o
$MeL$f_yd&Y^n%1Qld<J'JJ~CeRm~hF7F+wXCI805H`>>)l$Q*uxwGQW?N1pL5g'zQ:uRQ;Ef8~W>x'_G1asa:S/#@f;vsiAESo<&9nBN!_T(T=`yr/z6gO
D|T)g&GcN/bUA OC9jqFZ!TvE4mVZa&IzzAMU7Jmx%4mi)~kkp!BAy:]@^X~3.snJ1If_gf-N<iAyyAx|8&mKsO/$jT+YLDNg>0tj&#+TV<~9^XtZnO0qO3
z`(1(4<YNb%EI-G`I.4o(Nq[N^DDc)8m9b*W]ZF(*PyTYRv6ntq*Cutm?j$Pdj?$8x_FU7Bx((TFs3:!Im5=I^QA=xZ||Sg.AyrJ#:xDLS1E;V^YW;IQS7B
<5bBu5c4x,/fq`@3;d=nQdUk&.YkbhJ'~jl%3`g*!V1FM8X)I>Y:MTsU3D^)1FJ:l)k$N|)EIB&ols5y~`)e(<nrw(3KGgtCJNZJ-j6%xA:x FR)3Q24e#,
l/#x!j#;608Ly&<Ow$XYrP-e0Q),qsw-zMmkS$NTk/@t:o/Gl%K?0,gpKd@(reC`Xb9;_m!9Dx7*vT(m^`xjR~Qj8%&,OV]H*S?B8$;@G]_9sTp7(:b8j^L
$O@O&:Q`0+sf'H.R:Wg5_2X9~7fD0l.d_i|Z%nA1W'!o'pW6*2Q[/e['[f0;`>+Kxr%[a~!j*nw1M'&w!`!r#'*qK+AARHJ0:d?Oq-q!8tqhr<E#f'?.ojW
ZO*Ez.BZv+F,$mp>i>?/8V|.!:-qHh~je9rm$O<Gkw_]gx:PsvUwSu[w]Z%.A_wl).iY5^?M$i3g/P5h=FdD4 1DXtw08S#-O.[~,,,X!gmzhxwRV'r)U6t
epA(V&AC3Qn3B>c!D%Jxgw:V,N(^UYtQv~-(6Fin(;bGGN)E[?`t23A/=gI20NF?SJ!$~`0OkE>G'$QweB&~OxKN:HKVrkW^!=j``vY7!~]w>bP,QeEZiR[
V+8oP=wTu(%CI%m2Ayp~z10'hhV-aI4YMf<nuRSz2=9*&umLo714Wm$Sm0^|HxO.U?GVS93<$dGdq8Nz^,^S$%kF4%)oIAe]Gto.eFvOkSu7WG)=32)pv[?
z+d.BK>c[&fs,))!0|7vzryVy_5jkp0-`q>Yjy@*1YHDLTbhSJeLAim;U%;|c^pq 68eICK:#2iy2AWIg>sZH7SYZmd:VK~_[C_1GK'H@GghG25Nx>(5p>.
jomQ)Q&:p9x$9-<3!u%;`g=76)@lQA%3:pt9*I1Y/Xm=LbIlTOBC!<Soq2&5hyn:>~b.78'zv2'ZFm2*/p`|y8p/m8ZZp~:J@UWC2#?pf5NZvDkSIGkF7t0
t8vKrc&y|$n`lpe9j$Oze7/EwLf`dys@mEKhB9!3^g%g.f%clr~;dSkI2w3C,i2^tv72ua7QwI,-[*8adaH)Xnz#iqEN.x4!Yh^epI06Mo#hV>e@@ZHI4xx
xJJLHHy-D#j)8x|87:w-<Hu3wIOJ-3nC9;&6Y-)]mgm?^ R-#aM/,mRPd!.nT*z<Qtj)]|kS/I-<q2V$;5|;cpSwPcPcI%lIz,zV!yDKA<9(N-p1xPpFtUa
odLtnw;:K4*~bxwoyL?@M<&m3RrP+c$=ohG6nh0t/L/gNHW&+3LI$fR2,e@%cxgofLIyc3D'n=><wGk2&5H5*_s#YE!qO+9Brab5wY+q2?#eii)+tw7u.u@
FTn!n!BRe~.]</zkD*G~Uq'hzqZo$8G0jfdy44Z2u?H==tjSt,,(E90aifuz(PKK[[=oYp_M0-&46DlWdkX)[dr]t.:BK<ovV*.+(Q4O12VB~~K0L`E'+>x
Y5<z;Rc[5u-&cU^;rqdSC/_8c 15X/(05*8BRL0kVm;V<rkWkS5(eh=_;Zyk%,p@N?h&)4`<97`7zNaQ_AR]KIFmce`T6%`.%v-N6_k3mhJxLH((`LAIJt.
96<d+;?tSW'_`Uh>L@8+[??N@4a,IbBtk=^S@7el:2M3L_4AOo>wr:sU^?'21|EB6Nk|OHoev?G>.3p&tsV2N[WM*j5PDw2G@*Q<0R|p`8.V`|j)_d^)n8n
dGa,AZ/WacG1LNkuGv<Zm6>,7>w%BX.To~8_sZ`+D23EbpZC^A1V`zE-ZOAhnj.|J$JkKAICC>#?9Ri@(PP0S:rVK#W.w!g8=FLv!FcR0/u 1H4d,pS+Fj8
3U%t*=&(_300Ne42`-U*/=JIj,<pc#P/dlnqJ0QYFHPR_B@T@K4Xp)EuXs&5et;'-]R-h$zupoG)Ccdktt!3KPTcp!6Q0y[DzxkC*a:|9(~m$AkLY<IeuW|
^3TA!Q7i?4Ucl2NY|Vy<'~i`:qDM%sEe@%c?VatErf--1nNa15!m<W3bQg1mI8.BM2a&c~/e0]x)F3aoDqbe`<SP467f07^Q>~Yj)k<J~uC-QH0#GKUMMVv
wN:;^~Rd&;4kU]B<qKdnQtHpmk(&:a8%';<WRvTL(2e_5a m,AQE|x,CAbW+tm,#^?*fVSdwvXE!aaaT_5gq.)aaNzNpX%~bG`(V#dc)`d_ng^cO'%0G3rB
tOF?h:P!X&Z~/S75L[Ssj#u+J4brLZ^gJb4Ufy.W][-mE#os@CBipKud67y8ieS|sjtM=15k)JV^+VqMHYTlXCgzGsuBCbH)wr;FAttnJ`OBI5|+Ml-P>6s
klT^h,VQ!j`(J3~_Q`vN-?T/n9jM3R!zQAjXZ4U,[;c~2b]Q1fjO6Jz8U|;SZWzxE|%0:>3[^qX-O-XCa@(*K<ul. 1:M/QVh%>=Z>ac6zq6p=)[bE07/Q3
fN/VM_:T2v%Zn%Qt00&ZFF-oA>m,p[]Qd[^qWD3MwIuM$KL)gG6!2OUv6&3c6B&h5sM_G$BU&4kpi:q7U/pbt~O?!_p#x:.p`2#Eh]*Lp!tSFD~*qXr5#oI
FfsF%]FY|?UdH+#,rFeFOt%:''WBZh0unYbkMz_+nVjoRgStu8<p9_W`pZ-D$dEf$uIc[FoTFa9Y]TVUYDh>Jy445d/uF)Bqu4zzPOUYHS/*fcVQ0z1O_3?
K@,^e'|Ojv(M2/zPWsup%pxNv?`:mopi,hE|uNZG99x*FZ$g&&c C]>L#*B#pvR*Q>i5lE]t_f2vP?g()E/w,%SZ]iK:|&*m.uOzn6WV>H~V9B)_sk]Tsp
T'O*@0Z5t&42M_jr=!VsoH`;a-5;)D6+(!egD-Zp%Ol'iO5Ur9=Aj@|3O>U~g$$/SVkBNq_THi4YJ%8]zq>,6<DV>mbTX?$W8'Z/Y%vx'(M3-/~;FmB`%LH
Pp!TV&y5`6*dLUu^^ydJUnj,(e<p@Kl SiBj8>#4E[gL6$kAZto^07cOQ362<3_(AOuSH?'XY1<e8v#*3&io])&,<E/^&9X:/xU2mD^GuIyc&%?In*)KA:P
u`>wK`F/6u7/e_%RklMZ8CR$r;ebP?e4nkISrXu2jP7@.*/iO+O!E(n8'$TG0tcR@bsenYJ_]uMXU`rh8J[0i_`i/HWyd>RJf3!h<inax]s!0%y%'Bghjzw
=>$:#5^)ZZPrjV:Etv*VC(F/9>~$jK#EijLX=UKs?!3WG//0qJ>eUdo+|gwYv27&mb=*&zcjL2Sk~2Z93Ov+e?WruZd/ l|k0l|hkhq*Ex[|%Jes|4gi:1%
vZ*fcl=^jicnAfkj'308xx$)l5&GX(vAK(pfvp_Jq!HV8q>4c6QD/^L22k[!i;U8m|op?Q:%bKVlf(u!d.g`I:CQ<sX@'II#7:g=(l]][jMGWT-[5x'wnm%
=<62sQ.Bzl7dguH?#AoeZvs7g]Z)eH2lz*R-@pWP^Srt|UAIej^y>nVXR4lTZ3f9ZDy9*+#l)VpMmhTIUl-I3r'WLX:6xjb^.ky$vLrGk]%LOJC5''D,4p!
V4=qrU&jI3vA>I*;LN_hOw/C(aon^mk=W^vi;s/L~`5xI6] Bff]tyxkEO,Q)DDlq;tip[!Y:5KL9bDnYr=<y$Npu;)<druvScy%x:#,]NzF'<u'=*#Q(g,
8`NvABl+L[ZZkAz$MC@ENHAGDD,eB_*4B6-O<tHWU@6r:E/I93vEPTNq/vdhMLzt6]0X,Cg<MNBAuV$a~qAW:~_wWSi?%^!B]10XWV$j#TLwqLiQ^Le#bv=
X%_4;jyl&573d;msbG7Sheoe$0PV|';KH'h;[x^'Q=~b_F4!5'-9r@Yqk(p(iIy`^`kPO.ITz<gEA1OWLtX*K@M]kS@@`xwa&`6dVFn@C|_~+,Z6p5R7G~i
H|OM|P#g:hXx<RE)C!.d6d4V8S>%gUQ+cQS) 5<=okq)rgQWFT'pdPY]o7bN;b8O0KvsI*<'5oSf@=)b]kYBLl=mC6,IXus'M~vmC[lAezp'E9C'I=yWm7q
nZtgIEgs*l2viESXrlw`b,p,OCSt44yFUAsX]?OIM7VgH=u`InSo^6c@.ou$z3*44J8(?=4?2c`!-CfRFCjnbI,f;g8e^%yg-pc0;,[i6AWSC%rswoTf#a,
S%8Ox/n&[isY,UFoj>J2)B.=:][]`<-e4M.Ok5MXV~Oh^ydsJ$4Fz&<7052?;poUB-.X-mu+UI$Tkya~*X0~FlT^Puzs0e`x*S423~FEIUA%v. C)7^zFWc
v'[uNlz@V>6/]GtNG&d+N&'xZC`Q9=yNr1#aY+<rgC%Z=i*QD!y$i5qH6_!zH;GrN^_u^gy1hoh`XH([a>HaqqR`DZ<LX_9^YEQ#mk99ubE$h>Po1`&pj&k
A(XDE#hEw1d#zKVZ0F;ZOv(e;SfcIv'![oVEdzwTB=^?KIfUrB<2;nYdn&1(O^PF72)9g3k'#BE[xS|x))dVoen@=%C5au`2!VA'+@/Ol_k<76R&X^<,8ZJ
k`dgdxw<uWV*XiKg7=u9P/IA=P:%?.;wZ1kryx<n|2ODO2*^]TF=nV6hh#U4<p[b=dQ_XhLFZ- 8t5$R4txHVG<q-ebK6R=k#Qqk`CNs*rgJt~`Sy:+c0m_
E]cB4%5R'zGLmi50+hK9e(oPu=[/VA5b4;,@*WGFw&;;+6.QVL~`+yBZxZbMRpSyUQp:W^VA7P%E)KC0X8:F3r7[XHgG=N&+9JJUf?~s*$~q~qk5LQ6DNcJ
no(s&j^vIvy<`-N:'%Zsp6^svR#t;QXc^pLe/_2j<V!:R*`|4PV63_d56Vv]$QN+YF<3tBOmj,?2*F&Dx<6a_$Aqo>mx?L4%&,dC9N0h@w!-XyO)D[z~EhB
]]TCbgiRp4gI/;;W2xsuZLYdchSNup,2@>8yV*5Yi~b 16W]MK5:Dx5I[6|2Jer@Swk_!H+o[OaH'dYPl4Rb(uYUYg9,^2q%/,a.%bA8<L7,R3Jz|U^8/rA
50`6_%Z/G|uFi/~FqSZ8A_*7g:fll(f4t0M()$</1u<ClV7MEe'ly?NYX%$s`x.W`Z$i*KG#vFa>bV&+k^FDA<'pYtd*OwNkvDc]4-`Bu=>6S3yz#KzEW,L
>e;]<>snmBEa:SyI:sE|5*]CP*vK,D|k[#l$aTxdU4+eM9j|Ww&pXK|B`VJP/KBd_(-pj|P&He9fC<iA^Sr&_<yhoVqY&a>iw!9=:`lRdRijy*8JlOLE4wJ
xu@eu.4MQn[[o, 1w6Y5h@vg;IVojk[gYhZ8r!52?cHq2aJ7jy*^NGoV_KR&[bym?`vk#GHiI3|rg~W1TiwdG1/TTLDl]bK&&$40nF@u0.!#Mpz))!.w4Jm
|[cbciliCW^daS+2e`_?.In=^Tad^T=D^2'`I4=rI!dExis$4/~/oXxa]p:7)&@h~WR>Fs9>7.+?N$_.<A7Z&r9**32v=DQ~5CV+uZUk,>2d(OG]U.&ti8D
[Z~uNF.^Bzz7Ps.2&-lt]Q%j~r.yj3WOnhg*|dOG5|VMnA?`W,MAYx9c)|0E%tz%bMVJ=jRRZS@aB?Np6)?+_=bZ~B4G4jEufQu#i?lT) r3(XyR9y!)kN-
Y#fb&;U|tpdmxG!=sFm<5[aB!H+^+78;7+MaQw|Stm;DMb=F4q@5^iF7I(r?[4p<P62=<`j]0WD+g^T(?.b[&61r3?kPbE|(I'LXEtLyV!qQK`jo+Q=cH`t
+FZ7W1-'K4;5mGC?a4w?3Ct~~N1|*#zmg'DPpH:F3BVygWlo^r@hgb*JMT'C#R+|1pkds]TGTDaB_#P;%M.@J6N:,+R&St'yhi0]aKn(9FlP#/F|.N4?U:!
$$%)G6i@J!(0`*E4--7<i_4@j)V4[X&gJ)s,SsZ+ii@]SbbENTNqsZ&S>oAk%z0`2#??i$BCwXh$2*W 2K!)_]tr]k<VB.)Gt3PbWvL3>wW$m%/;~/S[|?%
iA#DRV=T$2m(p82h6O%$qwtu*JIcUT3PqtR5Pe+NXyK^=)t7qXkE4E-`Y@A']A*(f],MEEk'&$Z/r:I:;rBPk++^'|mH3>oLlF+/t#Q|eXdpZFka;6Kl~^z
EkF`UXiv]_r</Z?<l!@KcuUqp67PaCw|A'qCuo3B0`h(fwxS=M3r<H,4.Q$^1:fWvC5@`X'I|JTT+/jt<U|f|LZ8]+W`Hnp[EoJD+d5,z`X3|E2(;Q-zk6-
F`kc+?>Gmst:B+)m3I`?>V$f)<reJ8qF(N`AkySjzH:Fu2UibTio%u 1.wEo=*-T9S+V(N90uBTOBetCjP*(;<pwsVC^eDNen]`?U|>e?NUWe&1PYPsune&
q;I[#E?D[q4NjxE/#BieWoi$I:7t5JP]`9uHmO$G4BbNMYLqS'/1VG;kawJA;H!3c5a7z)WX'+|&|@*m2<[o7I$f7)sB#7iQUWb(KK>2ZXrlf@|~eNM^Rkq
TDQL7ym`e=?3FL+xF:zsEdVc`3qSN]-5K~VCtif@xLhGoya`^o6x6Of^1=jEy#P7@`.u[*dhE5].bdm0ZCiTZh|%-j#PQ2D,AkFXt#FFeAn_e's_<TG7+pY
j-vby%-sU3hdtZu0^h%:io,QX(XN'rj/S ^l=j'~@=K$!:DS'!DoY=aW&n#4?dwJ*-XI!P5I`)5ujtCf[W,JmXrYWx%1=VTJabw-pvml*YQvT~yYh*~@B&9
z?o4=7K(|K*QyA[ah'?eu`:1&`Rlls5Q*%Y<E_/,-+D@+D`mUG(4ZB0Loh(Wl+$,If:r]:D7D-hT^WVnCI6Dn&Euh.C[M(JJY&9wzzZNhMyQi6k.#aOAbS$
jt%~7ZD:>05mN/xQqEyTnT+]rW>p[1;|o-,gWz)D%r)h3lk7MD!l7~Iz5Ut8fyx>z&u+/acT>[:@Gt%#hfznD)f:bq#*R3:/L+`tkH2oww:Daa;IY 3Puu>
^Ix=lM.JcN-!2w2<GX(?>5)#~GzagC~%f[f9Uo;D3RaPb?X(5^k!DW&W@v8gaB[6]Fl=F%w]km<o]JriN_]p<*=?/+J83Da)y]`P4)N8(;J3*]fga/V<_Ao
Y+H'D=%ic.d'&8/C`*y,g4r@k$sA?4_%&nZ[KmJjzJZ!/mPuVC5;_nX:rTBoH%6v(o5kIQf2B1S]#s!KtAatN6#|_7A^E5:<:v[dd3F+eg^~+>Q2;x23D$
a#q^M7Ah&`N7|N0<2H@WR0d[)q9`3OYLHDb-dNyDN*+v%=tU[-^$IAuz]W1O L7N2_eKfH(cxdY()S>=4_%79O,+]'zc+L8't4'r<N'_X-14LdG16(nSh&9
W*~E<oYdo>BuyU)KeOT/m*bjiwh)kvBfnyl5lmNi.tBt2Z]SnKDO#;&a1,Urc_d[M&C,Pev~';_>DM|<nq[;q4:oR$dkq8~2W-|0OmnpZDwanT[!?h1_1PB
:D+9fh&s<$mMLW7Y[.4b$~p?gk0=/%3>4qX/3G;(J>@=//l6=uU$QIW5n?lLBGmPIGrge#'VaIA;?+GwS_uq.u$V5+egf|[$bN?S?Hxp>&Uk7MzNGAV0ir[
6AH@qK?: 64HwjvPil<rsUox[hxPJ-nG74K*gT+')SPIbZ]>vEl(xIxCb-,kH1s^#;MFEJi6sKetg*l)LJkm9P22tgEpl8mmXarYjEIN-mo>HvB=>9`VBeZ
wrn>/)SLqX,G+Oo2cYf7n~&~:2tr|'b4^d~wR8KWl&h4|KL7t%qQG*T`+_-FBH(x`>/S^3rUWn!ZG,[Sv0-?Me,HG4RV4K[q[9|:kqN'~:viQ9'QYsbF2J|
rTxI|hB$^O4qt!@c5x4N+^!$CEu*)/oSxa:q|Q89(H5xXfQ[N_NTYzw`GMZaekCjF@S@gh`ww+n'pdA,(JW 6=bY|tHbIY$J/-?#^c/6&DAc>$,<rS?t4MO
bUCcqO43K(m)P19D<Xv*s&YAiGHbquVu;%..9y':hgD8=z%fIQhZ[FwWw0,'[wFH[_B%h,k,M/rH@_aDs:cFB2-N(NZ93Wc!akS|,z@;r&tJtLmvbD0*cf2
B&_L2jl$M&?tB+*qna:k|@1[c(s($s]V#6N'jG4l.4)*]*$8ReKud,XKz7N!dsYY&1Jt7'&J>7ef&ybYJbLk7Z`Tsv8%ho(<h6E.c#GTMYL_ M-Z-iU`J`D
;SJC?B3H<>=+T6Dpd8Dxzx_B2yxi%t/]_fZII.5jgb3?_gm+fgv%NKAT|`5r1;fgljac;]O:8,:@:zh*T#ziCG<16Hgz5Zl'LPeRXFQu,pmU+YVGLJ`'[fP
J[ot2]UiwRjlGR@yOPc#PL6QA=Ly(GkbTKc[*TsT2tSwhPF_*[(A![6j[R~x-?5t:;RYfa?pf=yJKTWTnkZXa^)WB2B&38e~WnZ2Zl)Gm!QSkbDuGl~U0en
+>6RVUnY$^W/HO`$U(%zpx[h 1G&YR*$Xr8h>KP@6:+odtI11Kx5+'I,!=[.V:iU!H,!*@T9@]5l5$B$9imZ5P-4p,nuv!<il)%vZ-IaCyaG[G:S~$~E>bO
7rqa/b5ru6+@Tw6,rxRsg5t'0gC-;/xHj,1!O_%_|L$D~xU!/XUEnmK'z_;#uv4O#0_^jg=Td'=v!1t]w4Jg6,7<mpS=tn6EN/25ZHb*27q5+XWyIIpPzmZ
=L1mSgmkY9l4Wvl;0TKyI5pdvl=eTIYpGgKh@YU7 sNF_5323(Dy95%v'=C.^P^qGD|xaJZbC=TNW^mw>dl]IK%rb%s[&;5@IjP~_Pql+)u:er,e=JVCO:s
ki.[=ZAF<Nzyni83zAagD>XJDLtwQ6|WO]ufYurXn@x]iiyT;|rxl:8u2,n9r~$Ao=OEFI6:W6.Js]&U9W7kuG~lZyfS!OoWXRU6WLsc;NSK!j4KJxmzVOG
8Dz6KF^SQ6=i<@-ryJYF#W8auK3'g#11Z;f|:&9mdGK?Kl7u~,*J^JyXjc)eJ^KOwOiq[]).v2@zQ7~[Oo9HNf9e(.%Mrby@M`wZ[qqbX#R+MPz[|,d)/LS
(HHXB,J@lY>l6(7@VJ/*Z6. 6I7b'+SGZ_TeX=bh/#$8g6A#42gkG.zNO_<n!sR=uN,p%eio*~6,<4IzYuTJ).nxFe[#g_q0=FZkst;>70;CyqZ*rgkAbs%
Z`7[O^Qt5494wguYAD*TT|ULW#'iNg(h@2vCB8HpvX<,Ud)9AU2pD^coyDYECZC:jKQqa&0#|N(Kvd63eC*wt<6dD[>a~[B_zfbr,qYn.&2c$Oxy`@emJd3
L~Vr@s|:Wk5c|>;~%9Lm^+e9#(SML#Cb;:c,~-c<V!__',%[K8aj4.U./l.&oY4URsE`aO^(R42d#:6vP5^xIkGNUc+nX`yRy 40AuDIC>B89e3e7P#^81
*#=NcH)@Q]S=iPagXf(Cq-:yI$'j%X(`-'lK;y@L!T)i-qo?LZ*Fk-YO~?ci'XqEMphTp@wu:1h'dCNw?'|(;iQX[oC'K7E~RM,^1DhSHbCz$SKyMc&x[4.
.C*0H)P*|wA&ph]rghG!K2Up^&zJ'[8m60i<IhfL5Hw]y<0KwajgWTGY!e(<XxUQK6@mA1.]#M2[~DNZzq|<JEQEKpE;A|^:APln;kc!x<;;XxQrslhZIOQ
nyWPC*QW/^>e9a;4J)?%xPtYF-c3?NHmro~CaGMLvr#7NKNzp_s`eSzi'A+ 1E#]-qNqop:'c|6g>,pX;M*^/l0`wK^A#>8r<lJy$;@Ea`qjLb;?VDAr4W_
DnUq%v'nBU6&[g~W/:iin=j.SyA96mWy`-Q=)X2MU-axVOu26$!,:!FM;zUr;/)MPm3UrgJJRJ|#bP[R|1GG;#!75Z@~7m[*k?oq<UPt8I.>Gv=tP$W$`u6
|6DU|0u@nb64jJIqNL`y<jH2B0xZ$[:tD87^NZP(<v(GRQ-Z(a[1+X/WMIm[Z[(~2fF?5(CJdyShe-D6@6H-BrBj<p^tv3$UPg1v4WyU[<jg%SP]0:.lMH
J-rh(tY~jsqlyq_4I#xx2|Xc= 7(|CX`(zlf7>tJJHlm%XfEGI5(_+<!9%1LAJf^E!?DL-3p#xnZ|Yge<G@nHjZ#fEK4I;PCUrL(MBMf@8U(;=k)FXY`H.0
`50S]>lezrqDgV]IX[Mo,TT3jN-YYXJ%'K#ec0n?j~NWGk1mR~#EwB10pnqpqx0T~EKZIqbJU>Wdl,jLR-V%]?$Qc:*Hb@+hYLctzh6^-=O?Nr^zrP|uQ,v
[=X>?>#UN4n'Y~^HZq1=m^=nt/S47vdY<4w<3,6%X<`$IV?6gX^|X_BoG|WEcA2DafS#$t?|C`yZ]iJ]`U=n8!qBV^-|DSbL5,+3Z3;6;XF&m=? Wwgv<$w
aa:%=4d#i9R1YXn1<!?16t$Vi0)6KAF[P]t~9=myPf=aK?mTkm6B!COj<bijXKx5kf!i2cYV0rK(,h%:Odf5%NT94YG1i_RUxD.IuIRt$]g+Jb8Y4JFiwZ4
5wZac:]kx$R%4hq^lQn49`*1to`ugj'bN9TVi,Qkq?$o[*&fZM*S'A><bj6opi!L:q###5.SGjgJeJP=p[_P0zOa0[NmoPV@Q$EiZo'!y2JEV7#oSl9ocwZ
6vu@7fdHG(CTJcN=1%RTwuS8]!++I9gic@b!)g0@c/'itRe-1urO#385Pmy?oNGDcj_cc69rpd*S G!4<?t2)B7_;o2u|$ZHNX@C#kB!6w(&jI?cb7-)*-`
HvNn`QjU6MNqGcb($@`zL:P!E&r1*tn'cBpb/4bPPpSKtER|,k@P3+09FuH?*t(`,pp%/*A_$0&W=5Gh1HMZTG-C`]zacxRqS):eQr!/o64fM7qW6.iOG.i
ya5mq(nT-#T`OipEFLm9Gxq'nM>xb*&KT.$lu3CIB9SH*rdaw7MSsds8hWM/NP^`vg(|6OEfM^=/Vqk!C<dGi[t=lL@9;c,VLNycZA=<(Kwom+Ktxeibs%u
C3C%5vK3s)cn9RolqiNgfcecu4eloRn6tueVugjOFjhSE 1W:$)2ls!E%*d>KbOm1/_0ErLYH%RPr;pSjv_5X]zKn:A5iqHN:l!BRT+M'6uAU2AN<ZF_Mxg
`t~<7F!@p0y1Yuc+?f!6]tWd-xmI?V-T0ciIQmY!8@1>R!QiurD1xqxs=n_8=XVa#[Pj8pw]ek#T/H0-inI*yPEgb~,)cX>QQC+if4Xfb/rA'ILX^>j7<,v
6VGV;X46eQVRB)V&o.7v`DBrf/AZe?pvea,;Sj=>^OupWN<*9_aAv8u`&D:lPKoM31K(RRZ*&QhD6%T%wv]1#TvvEGH|A7?p~_~moK[H-Y:qQ&Oz4cjT5Tb
*@S0J@gZnO_IKuJq/W#j#G m*)/`/~nj9d4%=>H2@Y(^O4)15LQZ'Z95Be`|]^XyeahP_=g]F@4(rtF|Trq)w+u9.gT=H6i[dK4qSS*suAlJHKSGDaB)w'7
)FI98yC8KhRpWcQi&6u52=;^f$c@(qPA6$0c<ilJl;`A<>8)On(_,[oOu`nAbMRQCLi_C'x!'Tl,$j5%A<m)z%KlcUNlxA8EjE|RGo6:'2'~^1NKG)Jp,kt
GD'!c6w~@[(X~`K~UNrF,f52KOFiCkU:d0<'Q=s[QIJE4h|].WqKo+nf38p11WSXf#(-[Rp)DP,kUMmCkIWn[EWy<f4%>tM,o7;j%n4acxZ`%%%G|lkJF
8 4QYOKCvvQasgxT?+5'4NOx<iCTvaGFwZLrNTBCV^@I+oW^66_'cz=Zz1;8Vzm@wR3%W1sj1F`S|@Z&_]Q#W?~MzKY$<[/ib^v!!hc(~OwC|s3P;FWHb<?
A^<-8-XD5=9D8t.@g9y'F[T4|^8^JziG&Jv++w^?ml_qOuF3AINB7tz-,i&@EQtblk*!~Etg>.Aq8=!O`G=N:dnIn.Eyih/(<kI~yD@emZJ*cCR[mZ!?wA#
%NskdjvNtq[b5>eDg?F[bMATK,2'v$=[>pBS;Q;=F@i~e?8h$p+3nRi:sC,ho|C=g2!u+<E&S</Ty6emSIYC5c;Jdw)*E;Hs| 3ES~bQ/5ka)lon~,H]]a*
pc^eILFs5#P`4.wan%ze]WQc~Qc!|5p^Fi^!7wE%$9%0iE1DsQ]8GX4Q(;JeVnw+K,;luij9/?>|,*P>#2E3S#f1a(kL,B,+zv|QkJ$y]m24RH3[p.5ZR&9
H|E/#L:y>6wS`g:%?l9#r~5SwSE?D'jbjV_P>A5pT-ahCP<Z*:&$DqxSEYk4_e$X<lwBZ9v-]wD_25..??*#K:f5!2tNbdx'<M[RF?G8~82p.`Rwx=Rgi+H
>c(WGbw|lcZ4PUciVKg06=)JWL- 7qPE;A$*i|[F]e'FOWtc's4T=4L(r,H1s187c8.=n<Rl3*EV+[SV(OLH?2/UV?=m%&1`ap>Nay_S_DZu!5$U4`Ba>Nj
UJ%v&`YTX-Y%C?&D8De#_q_:1k(kGxJ/zBfWR:5m;@Zdtw8-T*ZJ0D('6>lvqW8sgcd5zFzIens.HGiwH!~+|nLTz)j[o!*;,R3CIgpwzbZ,bphg!Lm:=GE
Y;'[oaq21Z']51<&,wZEoeON6!ERw?iKM_Z):%8yTlRtK@Cg*Y(p6eka)FzjS#qbC<no[=N0LO`T-n2G(8E SW?I/&C9IG>45Xo|@AW%qPj_^^Mb@@Q#z_2
AzYI7/`XE=A.~OF~4@9z@vxtrBwqSJIHQNg!?eJ9)B.4>L.?~5c5k~rf`l:T`2=]d+F,37`.pk=7f$^Oo157l0.?r%'IEr0AQ!iJOF8?B!pDn|^N-k>Ub1C
ZhG!>F2#A<gx=P=m]o*bV2H5Rp>v7fOi5IKzCP8@S<V~w9Ic/it,lYC*Sm!VB@)bHbd:kZ5(p#jj]&opT=X)1A1lV-2HrC&ne(D0id7ooi-14W%BX*^p<1F
[ft^|9qhD:yN&OSnI?*LpZW,yZp[#A^5E8G9oNK GgP:j;@M]=VqAe~l-BHH]hkgcur+G~Os[]I@)8+$9CzDo)qh26Ykr0fQuQUQyL~wO)A*4wKwODPo$5?
oCY69Wwoe:aYd~2W?;0k*Bb]BqkwcPB#K>L>^-PZlIE2|f*L,o$k|sCItgI4-d8a0#[o1dzuM&V/1zH*Knv90x#xd*)W'=hK<:dhsiJC^1n22=5'(p^@d`t
N/!L[)&;JhS9x+N:P1o/pk*h'6rT1#wJb-2K8t6,O(PR^|*a*Nkx=<ihe7cD-V;M2<_5Vx.a#A9xH* PBFj>h$+bl+5t1h&'B'8DkLnClzO[D,RW#gr-'K&
7.A>`RMs`0gVRGgzsMB<flK2Ji<DT!y]:Y@]M',rOYF4`+8c1de/yGb`>nxd0)xQ<BX@``=j;YuQ@wG6vw!t|L?c1IA#;.9Q/Q/Yl-#vYw$3gsZ>)GRMdp!
_^_NlwgK~Dze49az3_MIL~Iiq+E,,?kg[ne#O5nP]5-Le~W-GGMX>[nQqb>.Su))grQNs#QE;iSKu6d 8jr=d$]2gm592lHVcLX4:Moo(5^hrm#@Me=(p<s
>|ZVd;.v%dnD>tuwQUd.$[PfQK,uz[V/:L&^$+(4H`MhEv/I)K0F.*J1-t%j&UfHsyw9NxL6JovNq+,X.$Che$)<N]<dd_q)$FM8wP/,<@7t]c-YnWM4V
a-/uh>^UyKMcg2XoU8m4(n.(@y7vj<BM=oAWEr4sSIdudyB/F<_lA#OmcqA[R]q0zixhv]u4#Q.r)ga*+9XZ!(N;]v'|b2v4@_&s#]lr=KZZ(SXM3`h<T<x
Gz`7<sj93&?3%IY|-,cvE'^va.isE%||*2$?_|WO[|V*im[~D HTXW&'m~|]`4<CXB@%^i&c[*MoO5uv;LOW$!vOwJ.)Kl^l2<iDZ64@|:F->Q.B!Qh4q@<
KJ|0X%#+te!C'YFN/%h5'''ni_Bs'A0sx:2!/D(bY7@4_8?v]_Sx~?`0cd,akaGNfV`=MfY&0Y^lEDALECqqmO8Djew_DJ>h9HMD:Tv(1l3/#1n)O&0V[tt
t|QJk@B_&ZK'1#6@_py?cU-_qDA8RQp^yhtgw#!.Epz|(LHr8sc>nW?6bU7(!-8)E_!;*x#5Dv;jGOc_;M!'h.D]D>rVPm|:m4CfYU$h4xun6GYg9>[10!l
0a`3;S`g.7dMq_5)zBY=/cq>O2yX2eAj*[ 64/km;e@x:puJFpM9VQU*^cujmnW'<r5NU-$Wa:wa@S75v#~$)Y=_%8]%xK=`egu9Iy<qG4@-W@F3/1H?![W
FuUd^1&#[(J!U;/>y&Cr5FH_Dik4T1b(Rgi)nh_ke'$j8.Rq_m!HQ@,Q.'JAVy9HxR!M9gVjb%Bf7VN*+dmJ':#4_^dzctnf-,[NUynia!#2Fd.U.T[dLS!
D/;Jd-k?&8A0U0@oFTxbak%God<'yD|bAbKEF<YmZneq>dRE8GJh/<fK69k3gf3MOcv`l2_<ap?RtzdU/|#Y#uu(0F7.YNO$~&:L#koqNl~^ 3s`q)/Z4WW
4gcZNvwvYbr47R,-]|k:y=<IbRY<KgCi?=J!!?orZu~:Vt/S7/[a.5gBdk2&7GIYFA&Os6<N~9h`C((IJ)3XS2O:;H:EZX3LC$YPhE:>4KPDJR3AYKN%4k#
lL7Q(ZF2'i''XgOT0qmrpj2:S0k$X%v[L]Ku76kr80!vhC#T!*'3_>/2PR~kreCuXVSg:AjJ-r><z|DRwYe6PSSy#[<&7Mbep](~Y61K|w5@v'3JT,[$mJ,
MSxa1u(ypwF'$wl3^,e_:q9l,OY_s_~&O:#;!%q_u^-xd].0R9[<xP`HY6Mc^z8ow$%WnG 61ItU%25P.G3y8k|4vr(2x>s&4uh^WM.kd7JfR9nc0ck(/M!
Fum%!~WQr^Bu#3He?7_MY_3xllPxIoAnPN'&EBE!Q[N4NzhTc)!r_U'*ZF`(Mlmne2@VaP;W@#q&@?BuyqW#CGb'%xvj+fdqmh1HteEAOj|7%i$PtCbW>/Y
Fid4T+#Cfm;HCQ#H`/SQ/F>:z2B^j.=GN3<$&sY`)~-'3Ds^?hd`*-Grmq-dag$OW8(Zd>kyK:J5(D`5RKX<Vrzz|F8zRljLb]9|KLdFnO6+qHY'LNbOLnN
;Gk|_wi&Nrgf`@[$QIvxl@YX'PwM(~S8// 21Pi:qi@$u,;K)1<)h&XkHlrPSb6oW^7@<x]Yi?^`vx6>s-I9y~ckCP??%s#.|@Kf36#A)s(;:ET$OJ(H*ZN
!7.znfxaN?4j;i=QbFx#*lcs!sZ[v_ql8d]E%j|E0cqHD8'(eE+dVx,g/>]$5om2TxmQNU.m/'7gjea7rt)oo()6Y`;7*9H2/KQTmk[@Bx+:1cM!zUow|@M
]zf&-`MH%_=z*O<qcb?_XFP/1PM,1;7]llKKQKS.k+?sDv&y!k^m9Eh]j~DL@I*K`[RN]f,ztp<3~HyM~_]:E]W4q!F8?6('$0>l@>dDD%4%2;*D5EzX 2F
DQ/n>`RpB0JU9$8Z5tcY)boIJ/NV;F$a.0=_mI2:HRK/!N@/|Jy~OV`BfzmCGr9>18F68[n.]e.LP/S#x/XUbgX^^6|>-Lu7%H3tG>O?Cu+`zSZ_my(:pR9
+*[90#|r[^z)Tw4Sc<##/&:xt&Z$8I?%38_-hTPRJj^G;WPPTYL$@(Rrkx6zNa#jQrk4LV@ff|,eX*doL,]ufA8&nE(n$!MO#rS6Ry5ov%,iZ6X@o%CHd7+
(~e:e!b_n/<lx1a3!U1wtciszoT93~f+2SE2G_ZfwM^yloP`!5GbhjX||opkIUR1l?fMpTAXrPJ!E! J'a|Ogq1^]k=!+r>@yb7le_|[~M9aI$5kq19<!^`
~pr[xNmt]qvG<5EHv2T,E?cxq%|%xr06.a)N0,UP=+@e#i]85IM45'X`HpYO$5V9LaU]=BKO`%sv5E<m]=cn^aHYdBaN]8iz4Qe*G3zTurhuTt&~s5fKmPH
!P>c~;pV`im+k4t9B+)S)MougXAz#6xkK=fQA%Y!m(/VwS-gMIi)#Y=k9'|aEO'@3(W6WQ$<HZ0mx8K>C`~UGmT%:8=W9&[/rWpA#n<~e4;Fa|o2LKlBULg
L]TQ9up18~iGlMcg5I;Qnp7,;1k!yLp/eSK7WVrI~i 20sKy|8RpP;lZfEI3l!QZT#|0VwWqNS>rYop~:g4O]tWGRj5/!o$wk)|f?%.GBVN[;Sr/*kp5W0q
5^WI/>F8e-hZzxV+2|`)4o/&HF~J,?c0eF+Hkuq2lO-kMEbG3@3=`Z@cYlM*Pw%r21,|K<~z3+q=-EQ2#ufoC8kW/$)WJ_mS;NdouHjt;5EAyE6ZuD]d>/#
dXzJjz?CDQMDQ/N3mMQ1x:_0rgM:8|>/^cXH=K]ei%xUTNFSM^ILjEra)S)j=w,[Is/daKN,NuyH$B~rTN1EA$3J#Z*MH0ReOLDExQTeQ'Vl3!K][R)dle)
;5gKV40H9pyKI DNV;HfY=-[,;:qX,;^L~@*G;N)v[!19v3uW=;Tu;=wyGzC,C%J~NL?#n0UyJs.dX7Nj%#OYPS'9)svEqy[^4WK&h_SYmz?68N|ExhdVf,
(;,HY@/fIWhCaup1nkNMGVQ,r.Hn%:6lv/ad`Ci/GRN<t/$JLd;is26/cq`Cp+XbPpGI*dB#<>wk&>Y/^R=n)Ep^F#A+3T'U&nFNFic21jO%=6Y!V'=TYY9
4&A;l>@47F,C[34/r;n3o|SXC]J_O/F3CI&9L~djr]*|)#c48qDClTt@=w6lBe8_qtTupIN0H[78gW!|[XvdsvMPI-:h><&P4u.c+`HDZELaRC 1q(T=PbG
a+4*WRf;6sl(T6v;Vwjb`FTO:,T~34&St?lM*rAoT.Q~q9j2ZGYe)4v:BKhY$s?oUL[hIq0QT]IO9dyyKKK^us<D^*%o6WVsC/(~?FILBPL|3Y)E6BJJmHO
vR?Urn%$K]x8Xt9[B=eZ#0`yT#zYM>Q1*2P]eX0iGNji(n)3I![[NM=;B0X+x=,t#hx)QWc%sQ--CD>Pq=XcnU$MRTsQ,,lmMZ+2UaHRRAp-nk*iz@aQ__!
^WKCq|jC)/edTYgT2%t+o9q=-6dr;z)rWi&t!78wmaa;gFhm40MobX!,,46d,Dv|(4ed9j1|':nAs~!5c4< 12s=$Eo=&f[>`NVIX2'+UcJOxQmdV4GbzoO
7EDiIterUaKxpHSsIO!^R*ThT-)KrTlol-^-|uLypQ+eNY2tvYz./Ycj!jT`@3|Bh5R|-8gY5dQ]I=juFij+>Uv(]p%hI%_vhm)lD$?(--hN]b=*DqjJbY]
?0V:Viyrg0,Ps~HsA*i-g//wq1Dsj7GO?^`CT/19YOdJm>up|jd=~j~;PH!dm'$L![*Ofw`2$iyXhAOCz|<4`6s1*xF8GtAsKD|ge6f@ACKUi%7J5>10cMB
GC(3gLG8<zE7q21Wsy6;#DhwQ 1j7FCC+2PEY7dUNV,b~_YOk1w*4jRm<teU'2R)m;T!KXd4_,QiBm++LUI':khWo2-qmC39w6K5x;Y2KUb?UuT!mFn5y6A
%gc%>-2t'@21'@>xwDkcd/XLE=@|j)f[&3#K4*RhrL)wgok^)fLeseH^[h>3]cVcOFCsl.0sz[gw^b-[a?jl&dV<@ao-u<-O~OHLARGY(6~Tey7=0qL!$as
%w=w_cOjh#5rS|00.O5grg'cNx3%a^i_r@+muctf3W$r]=$39soOK@~)?|6=+D6zE:>~l<be;JNFT?8vXS E1v*@l/uMcxIz$Z_C`*gowj8WSW9:H#ROxb0
iV>MsQ[/NL'0`RL=-(-.3u=ZXaMg#,5Y?J~~(1ZLUAc!(%o@sViF8sH.bOF.aqguyx*nt^<%yex732#*9t&iw(y`B_ZYb<s*5j:,6IkjirSE+ntPT'_D8*6
C:M|Q>.0/I$3G6tS]+.0^1FSE;pDtkelh)C%:~3h^yCa,Hgql*m[=wt|l$Cy[S?I%U&oe4!AncHe9B+4eSR]g*wrm!e$eKc4'6Z;rC',CnVup7(i1:`[1%|
spOndDQCYsCS!Pl|/9U|p^?Be 2?*jWV7fe>@sk$Gi`X)iHA8>Pacx-1ZBB&hb&#EYyK~YZ3]6>a5?jGg/>JPZ:=R~$U;s4~AjMT+YUFWQFp[BF^#x-EZ'I
sf8qJZWAT)b!o161fnTO*=;L%TBqq.ct3uO%:R*,xeoor,U06Ob~kYlnopeSq6vLb+m1u;?nrz7Qr;p=~Z:Ll(OAKKxF*H1;+=m#qMB2(MzA^fVhY3/=yg/
ruCf[udvqi'o51E[/s1&[3T_;+J?#D@<VwORUZtK9|,Mn_V2&aM`]V<$,yZb=#Q)*!l-Nj'j%3- 9;U=kB,(<|-<phMX*|xa*4u>FJHj,Znv#EKW%(RT=;b
Fwx6&S?^fqul2o[]X1,A++1!FwrklOrg9nk$x0wRt060rU6EG:;a+G&_R1ECP=?O]LUybz::z|=]GOi|G]>!IN=~qX/2ZNV:wkq)C&vmil#fl`]RWzJbxb=
sP0Y~TBxIj(^1L;CbYHkWs:yEUlV_7/>uBts:(aYAK>)4Yy(&sYl`J^w&%BNZT54ziEu%'K6O>@hG#>RUHv@q=7xl#*S'@yl Z^Cc.GC8EU(a2QtRgOT!WR
yqR(6t(|$?KDnDz*PIA?L&OUmK./v>R3fj_exS)7qQ9BO`;x2ALK6Lq&q`I6wZ+v,o5mqv1|fNd$u.1Kg=#G/6~Q9,I]G1RrjK_Yq6-yGI8<28(YbO[[v2*
yeH1%w%,%'NzL4kS3+LREq<RAV$/&R4vM.2|>cMG_0&:rB`GrDlH|~|5!tS`fGf2Jgcv`9()Id|R:bp;>%Bo:7w'kXF(k^9DD@B~Ce+24Q(7GF+u5-u3v5#
AKp=&+j.WtXfqkFD,e&4b`XO?@$2RK6nd:Sy#1?yg1C[<F 5u`Yz+W$)lt]k]0qhqc20r8)k&rJ#!('4JdZD=xVXEBN754;#Nb_'@Zpu=u2h5,H3$(k#@:*
,r9nI~^A|#-nYAVCa8*Gf_K0c*B|R1tFGZK?A7MH`>Z+Lf^[etY1aHZAh/Up9rk^GYD>|$b6!];z+IZE*e/^thq]DT/W-Z_xUT:t3]p^u<cNP/]a_k>)m.0
pG*_&m4Okq+tUsr?uX0cw!9L~*^HNI%Wluy%Mba|y@/jxN.$9b$Zhb+xk2msC92%aNm>llLiDnc^[Y[-4yA-J,9&.P~A4avn$kEP$NO?~j7yq<&=2U<Oij-
*222_'#<4~I4vkl9[A-=8w-oe 5]CGqJXbcY_o7)q`*`v:r;L6eBXF4dxCOYYLVw3~*w^R)Uhh~v+f_h#LX.||1!jQKE,,9Y+<gU|A3G5#Hf^*D//EWww$i
v:%mzW%T26~X8yjVv'H)%?Lar>_2.5orDCzKoUTJv.P%S$F#IQk[,ZX;47^NwmUG=So4)UT&9TTte#.XLt0,E|E-M1b)U'g=p=V~Tc`,yPy[Igg3:OTi7m-
ij~gyL[s]LqXTS9.:A*b$pe_i^)xVe&Bj&)lbo*z3IM[~Qd.WqlZ+Y%T)#1i#0j?j0!=b0J)9)mVzawkR-M~sI5K@-EEC1lXPLC 2NV-2AC`lC:9S#0gDC.
SNG>2,;2(VV*3ZD/e:F]A<&-tmRAl/YVD,S=*5;:]|CF`nf7NVc%@LN>A9D'M4a$'[<z4PNQvTs`[Qpo?n!Jl]RX;+z1ZV9Ekzw$Ad)Ro2Tk$j;u>*Gl7*?
Zt02Je*l&v@5!2ELsUlbvMjc4W'M8uVTw(AZ7KqN<cJI=X,R+[M3W7x~7&QlciR](KFv[d+X2DHAxm=L@s)f^LArooxxMaG86~cs$Fqq/8Z_`zT43!=]qqA
<&Dbz!;H:yOV_L5v@cc7kVeT^;h[+v-xZ/DF7=m>7MF|,XVTV4=ve^[b_!,n.U F&FpU@^iL&;dj'@W8uVHWig-Y1pq,uz,sbcdo8Q$-Tj)*=U#`ya0Vsts
lE~+nyzGAYu#y<)8D8|49<!$.|98v|QD?zV3eL/2!lZ4J@J`YQd.6#9izr-9/([pG8>(757Pqb)c5;UU)kr*wA/9e$9KL8vmcAYn.[HBbir9u7$J(8Yj.J.
*MHMT8C:Elc*oi!4b/P|TGf>[xOQ]XNTUNl?V@fd]WMt9vM.A`(](`Xx~KsP?UH.Mt!G^Hv>bN1GcC@%.bGg#6Io$uZ:T,n!iPEw%^(d'bu/~z9BD9tDCBP
.vn4%J@?[[58y`Tseu-g>8nrV4# -F_c__i^-.K)HD8UxL.d!Bg*Maz$d$t_?VumDYpc5cMPOJ3IL^<xPKhI(S3q4qPYM=me/QIHASr|(rypd$%E.H/R7Ck
M40HwE#lJ`c7zd~y&ar[fMaW4h>iioe#OP.=]@hYVMOx+Ud,<IdHY<[ozvxR/>&B=lIYe66I,s|Ye5jNwui;Z!IB!;&:tYssNSiN8%l'7XNqGM6Fif!InY~
dV_[iR+!GUqY-HL*^aG>hIt-b-G*e/o45d1h:UCsYJ%X/m;X]rOnF5l9~589hT>)crUbIQlD6|i9rH8WPDNu-7^eGsd`JqxU-g-B8i$MD/ aj^!xqFcgI13
gC#+oFE@5iAd>LcJK/n@F/OBu$#nGR9HVopq_'9Q~z^w!#IzXt20L#rdP(]wPY&gL$?$WF%[AGkw2Y7|id!7h'P[)ANl*c7~g/u.E7xddS0As^|m69ij]P-
ZfcoEXCqTx=k|+S-0OPpsrYjC6N@%Il]x%P#/r>@1po'ij:m(Y#h|?+;H%'^!*BdStC^:=Mg$N$t2[kMNI[=?-(mFToT9|<f//4C->tIS~B-d$kS|F`T+Ee
,ljQSMlp9'E9z*fY'i'AQe@Tbb[,rM0y`=d8,/)N.,cW`c`eJAOF>T_7#-$k?I5'I 4q,3LAJcbK;N$4X_?9qA5h$X;=f0<E$D`I#UjQ2(:D/!nD(hw)m=_
v(fx!PAAkeo38549.P8~bDcke|]'z*I#|>_Hz_Ee*eB__f#xi=ddRzIud^3QMl&ZNw&Ik3bR]>h'xtfqVwFckmv.#xk/,^rI=)LhVA@o+uBhjjGTfSx6z.W
UC!c8QPMfU+<cAHss&za<lWNhAlz.470oq[.VJ%]U[JmTDP>gOoO=kIuF^#sMnBFy(xEWpc,|b$pchQz1?6Yd7glcWu?:2ar4LtW/m7[%Ov+24pMKQ=TI-O
V'Yo/('LNrwqdZ!(c*<sRo`,- O1d:deB(VNjM+R]e-V,n_)eC5sJWK<R;2][6/ow9L/]L>K2!dLPr-i6cz2F>U^C5xm:xtY0htiIrM*1hE4dpDvK`kV?<R
<m5pgG@)`R?/Pyg[Oq23dbPF,^bPp2FleOO4vCtb?+>m/j~Mh+.@+g-U]5wr>yyuFuk<jubp<9b/4*eZ#9+;%=Wt*=v|<T0u1r*#MTKqfdSHn/A.vJ=rOx$
GFhQFPTH<~uNA)q`Kt4zs.:Qvzs(Gq[nrG6!voZA#/3>e9<Ro.6(~DzPm@.56p,X4yP.o;:CaZrNM_V;;X]L/SVlKE@41vV%&L-[2&PB$>_G Dhxi]3PES~
XSGM5S~0a597%l[A4BiJ89udC`sUs_ZYDTz^c0H^D2t].XrlxM1T^Xw&9v93Jj8+|PxL8._+H:|zcKP2gQ=HDa9@xNUNi3H&I4FB~1r'_L%nHMQ|yvU[e>7
c[4.u7kMX)SLJnPH#A0@?wAP!C5h2<S5b>+/ddOF9/Lod;0k+S_m|#NH%tE|PmK8!g/f.c3lcU?r51,y8RN#UHepzlNzKFNZh,&ug(?D4v;E^=.*7^qorC1
?Ad=;^sY`m!>der)aO5s&`l=Mo~xDoyzQn~Nf.P1$vaq/GSCn0N%~F.`)0.:oWtcG:IV)ncZpgW[QDM>ne 1.CXhO/cT+-6gKq$WW5fcDTFB&?+;p46<!X[
3o~:-]?VO>oHOvq_f?<+j)#5xsz<aFlzU?p1#OPNY0?z<U&WrD?kd1xcr$0!<UQ|3JMf:A2[jT#=O<%zO#qZd[)'AUFvbC;Q#b[o'a_oz`|.<Rq/2b8I)o9
&rGaAG.lt?LfUA;E8in3PaU!_+!Ku.&9cX*-oEd7nZb87TDo!z']c`le,wD8om.RjG$Xl5|iOci`2JS>`CR.W^ci3(nS$n2yi^&hO,iuo:okZk?-WW_fMi(
yXw)|nUtxj[6d]D)5dqzy#&0IW,36fJ,TR'6953jJJ- DL]VN<FAU&8dNNon_fY#-GQB*<.l4/un8$QP1/kBemlTx|''Dp]5BsB83C'/6Y2SQXIBUz<i&ca
<2*?4[)'f$S^1D^[->wX*jyGozplj(/VaEANB`e0v'C&6-MQx2cn0)qDUT=$79[f^yA$O4uA6-wZ0V`g!=W`%N)BJF-AF;D~Wbw*0a4=x9B%sfni;.Dvi'5
2@0td'C;hK<k*K]wpCruEJ/8y3L7:gYLiw92~b7b?V(Va$QXWr2'MI0Ue5BDC;*N@_[;%kOt|mWLa@Rnt(u_ovfmC`7iJ!%X[@mkL=I-Q Vc1s7C~^b|h41
6h;(NAT2qaC>F=%~e<5SPx#`BYk|_>_@W%pLmetx*g*);3da=<~yl7lan2bohe7/vWsj:[J3m2:Fp-'tu[7Z$(|i!IYnH_%%WAr=&OGj>a3N)l[ysS20I%D
g`yY$Fp)z[kU27S/WiormVd1RPHuA-)/POG%_<Ndib#Kln)(!byS;wVS,/WvDqR)M-6HsX^%JvD;F*b5d>ZU,.zq=9j,$u3E#CAm'!a<Tw|HYB,c9Yy;,vs
.G~[h>Y!b2ceOS(Cj&i>snX).lq;~e E9CT@G%%_|XFabupRsPf3tR|U|*U/Iy7.x?D''A$c#*u>CZ[OU(;d%6]y:I5s?44bz?5Y%:`X#wep7yvWK^Rx$fv
oHRlU1U2&`+aPd9H%=4pAfvsjr%_Pl%)PQ`j!Bn94~RGeHVTfIQ#r8M;aJM#h-.tAVS's&TZS[K7<6>KwDWZJaF[J|^L1'%dtUUAg6H.hIf5$W1@znb%q8Z
=hQMG-.dNbzRIR+4>5h@Nnr3P[S`7H^?|&vv%SUYTn%>hZ9cf<INS#:Zr/hHRFB/ti(+%qp%YU=hOvwq9)=Ee;(F:x^T@DLvTi 1PC/n|YbY3?lq</[1c,g
hOzNLnuozt`SI7t]z;7s8aXTID[&Seh_|^|$@kg4Tw>zV</5-2]5k+UU#/y=ur]U1k(`D<d@l2yC<f$Rd-_x|hh(<8haWfWIhf^v_qS@1/LPYBhwg^:aJB8
KK~eGU&-kF@khU%~+[2%1n_zT(UPlR#J~TFkJ++a~nlj-1j!^G7RDb|'JTfAQdL&X!qB_ctE#>;VrkVLX$b+CN3WPP,^o5pG:X-)oG*&s?D,yU;Z|LDSKQ|
oTj$<BIB-5$S74Yy!|MfwA/W%aO`q<pFd5-eokw?:_9j1QJS 1FIh@&vXW+E~cY>&;]d>v/xv3u#7v8xqvCh$3]_R)ThL?r#v>@JNzc'pdz!1?KJ@5z.<_(
YmML_GR[j+3DJfXAA*ImT<Tv?>!@oK#tBZ;%~_5IIx(TalLStr0S$n,~p?gQqI_jlX;LWxWk6CYJq3()hsrJBw~/g%#tFIf&:(j+0kXokc^N8@+*OJ:xzLd
h>j=tGzG!LV99tjXk8g&.1;op(R]]5n0Nka:|nsT_GO_Ily~P5&*;V)=&>eg?)ew1n 5*w`>h26Y8jH&DvO0.7KuPmxZu)W99,TUnljgy;;5etjhZG0bnvM
%,Jz`5(,.Sz~6Dc7d'BYS68aV`z~2yHyNX0|[5%-l%/PRX8QS!n5r9uVe-#j49(l#vUd|&D-S2tX;'V1KrcWuF-G^DSEm..9d^B5)WKEtr('jcJ-`=D=3e
c/-iI:4Zhh#Putd/%xyglKVgk,i,=ez<VE^0bKq?cf9]#3#'N1|Y8*~y*e>bG^'jzJ~es&6[i0WOmn?$!;v%_Gr0Lu3<4]>&C|kvbLDr?b+0wniCGzA9kUM
|#X15wK)3!KPIZ u7IA91>@_CGltO;z|XUN47Y|]!2o/c/d~.U.D&2X^X4(37Y8gXVS|jz9U)zPonFsB*u)k:6(V+aYxT)>$c)J)e6+`k~r,:knbW.MKP&'
=4iF?BdQ[#7Ac`=.ln|L6;`-/Lr:LQDLJ3hB5>X5v'xssSE(P-or^'hK0/LgekKTu4H#|=)FXM+K>y;io^,^0zvF9gV6HUaS`]hj+vxV9ShCJ&M1DD10.1:
oGElzm5r7M?kL;`TfS)9ZjZp9~#~k=khD%Gs9MzQw8^xN=0pr)6ia|6/Qo/Revk0lq'RaH/T(fKbH'-o_RcN&89</j!8>iYjmI(me9I&)[K7^ai 5y9|(e)
kG#yb-8KqDPzTfFTbyZUH'M$L.g`+g`I*<Bl11<AU#ze.:t@!SBL_qLx_!hrqHZkaX7QHJ87*O]hYx6Pk@Cy8h/ly';Yl;xkx9|hG0H4sjBtoS3nygO^$):
Uy95EeE3wp:CN:W'006!^$ohHidJX|hQPC(TCU~_Ky_>Q3.,wm]=cGeVh[o(l#/nJo(m]H~#~LBjh@O^!Tb)GHj~Ndt,Ij.C0By+Txjxii6~kucut7W4tKc
s]PE)zj%`.sO;2D=(9XNm]R2t^DP-m)y.leH/6P9Jr)$1_F&lL(gw'xrg:WSf,B3'I Myu/x9BI'w55cD,&x;fiDEGs$8o|]G@IyJuT#ZE%d$N$^uR#*?4V
RhihCnv&+@0rhym_7,|BQ3pzz>Z*5&CmNwq(k%7yA/kK.GEPJxZb;AtR_BW-Jx^35RcVK~&UJ26X=B3;:nB:CYh'P)2:H=f<$QDI$D;eOQf(c/E^7%#Hjaa
gFz*^HL+Wsh'_$c2X?T9=]|M'EF[84o27UR[`!3/bj@<=:_gk^S3ye.Gt!XYxoYlvf2+SHttw?#'9sXxksVug]&8=0pPC0?&DKqx!ls('r'.-wT9Z2;eXW`
w%Z[yT1?'q]07gX`Sw`#uu($jV6D-V iW4Z``0fRM=V_@hop)PY0(#=nJ#v9XXcfUHaHm)]@_$eKrG.5xvx41@u'Gily!GJxHT@pyrLUW<u:MKeD=4Sw<xH
e|-%gq,uX>Qrv;gYe70g$Tk$R:wcyg`h*YrMsIc0ya,)2|I=N&|;MmdUp#'qs>@]*+g.)#pN7J:(m%&`gFN+G6-vBr8bC'JT~y<FphjbW;)??de@TX|(ez:
r3Ou^CJKi3GC/Fr#>1f|jr~^JOvm<&4lobh=;:x9/V:uHk=B&5a+!`L(h3y9OJ&lQun^MW[;!;0ix(<QMDR4iBrbC%z?;YT8PJMM'cmk+kLo(=|Z T$+9=c
$V)1=oTY~1TV2swYfJ([_6K=vmmEtU8MD;H<bR.l2*mz5mC0#7F;0tAUwbnQjc(!;:`MUzM_D^kC=+ErOoILjnxW-X5D*q'HS$S0Ml^/C!5%p-sk~^Y@tms
K[$Tk],'ewzl/VjMi3[p9bl/a:=nPe=hOzuFT`?ATCRl7NgfQxXUO7cFgf=Eje@a/d|#<R?>l0<@r+niZ%a+hh|Ae'/(Dd[^Dqnrc>6Ca1x1TLahJUd+s@R
i`32AE*VX#eSWGGZQ$5h]>t=-q|+Gf.%6YYD[nrww;167g@,WOp($y3J+0je4qRvZ|$?ikl ]~zU&Nad9NH<M>>U;;~k7[,:J~.i_@BTq5nZN>Aa%_9.M|'
h~V]2.>ZZdb8)REy5J4m_p.O#T16VHDD^>kUk;ov`wDu7!#+U~*Fs4&]5gfze=Tq_5Wc+v_$a4)g_:^+C|M^:aKq!'$h=tphFIfHhGc'|)nZp:(8^Q02!TT
n$@cJiz^JCm5M#6b5PZ/#K9T<+E|qPw0~4+9-dK|XhG=K_)CK=Hee&?f+3N18q6a312jz*Le+:Ul%b8NpJMJii(<D5^j]~r^e1,9>;7NY@~lIm[9'^B]dJd
M'eiyC;P,*<-(I~7'UTR?fC*O.pC uJy>.CQSSMz0_/+s2E:_5f92eIKEV|kFikW(u_q/dhW'lO+^nfRhO$sf~Zo15P>4eEvOaQM@S@)$Ixr@K((R8dg*[<
X[B6Q*u%<Z<V?``'U^LvEp^c^zr)/!n7L@oYO|!@E_2n5+T+*b#gi:Zc3T$AA|_#1x5*RSq0+OWj|s!/,#Q*xezW6&0&S/DOUX|UuQ?bGF)'dKr~GHluv/;
ge^tD)h?Um?;=.&Mrjh9aM-Kw[NE.taKj9#i&E)>0=>.$sD3tmCw#c~3DH3%8Qg*L*,)w3/<y?ZHde|jUT`n(60u!Z01p-Y6FM0jk,'Y y+QD]:SP+]>Z+u
Ho56*U^WadWHOc_ue^CT)Rx9~Ry9PeFm'+AqAd?#M*73*2M$QIiYhOR|JDy,n0%#4Hmt.:?0x1R(=NA;NwpH.Hm9)E.zjE?6LiQ8SnIrr`NA>ppZqyv[[j=
@Xg~&`!!Tjw[3%jl#m;#@6lXBGW+m7$!Hde-&J48jMG%<Ic;ftEM,lv.S?d-&4?fY1W$~T(mOI]m%[Z!VghJ-IAOIY/#>,?rX';TJOF_.%XR[lc['j)a)zW
vC+MSdbnT;X+J1YALS+J=RoL$f=8Z]zLRNCWWO:_2KgVLVT'UT-)P'mSb98wmltOc+ 11EdOT93A'ek:)>q(sD$r>d6>!?,7pr?QYH/[HNc#`3+L=G8=07G
9Vrb.0Q~>ha~3D67JD&;URkhsC0&<S'YtbP4aDbO</Bh38y$emkKFVBprEhy2AC1uD`mwY-7@yZDQN?e!K28QBrdy?mZC[<XP2li!k.)oKfUaRKt:TGb*fl
`_`G3?McRJK0J@LR(?oYj]*ehX]ljyX^t8~y^f1O.>6Yf.K7qehq3m$>]d^,QtdzOrwR<J[7b;fRJ0kgVH>`qMkb-4)a,+9sJxC89j&yi3rVxM(u|,s4KYS
?:CGD_1uWq;m5Y_o]7rs5ps6y/b^Eax> 1vm()/B?R|8:||'dOD6JJmJ1j;2H]M`Yo-D*XoM6BX,g5):hB[%/4qrbDK@`96w1.SjWb-T-J>vOH0rDK6aJYs
m=*;C'D5`ZLjx0^Xw-v;V5B3N^v?f]/`zq124Wb3@DF2Bj8G~vZ#jCj7!3.*h$9K#<$JSR(PZl<vl(iYw&UPM++kTiILFiILmiiQP!G*>KUuj,2Uu=W$@C4
3/7q>V:m4d(UUfIhZ^!;b;=P2aT!K<0Iai=a~t.rW|Epdl((lx[1^LIR2:MG1K?U^7@h+6y+cI_q|X%feyQiz;BoK_JVQrce2Zf-+vNI6w^'wm[.yQ5;X_o
)W0Q;eIIfOU' E@c32K2h@H$Ep7zN05EW7,VIL!(Z[P7A-QpPkZJW)RqQ3AAzMA_twgmW.B4lT8xy&~YfrATSg!W>V%NY:caI[a;&'-&n*3Nqq#kFsf>Zr2
:9b*kclzaW1Yz7p^ry*80op0pB-&fAhanHRCwu':B6At%-[.X2eP-Qu|pV3Ih1gOsM|wZIBl;)dT.|Rfy`GSxkrV?ZmCoscB;!9S(VesND^c6@(VzOT!JN-
YCR3@X<B]`U,D3e^x2wW7@EdJYxaw`7]mx74jf.|'ovwH8!kA^_M^LZxg'Yj`.! 1fU9D8k`V+?wOq57/Fpn50E6jU_Dw'*aeiXVx(9JgwEy_$X3)m%S!JF
j84AXr_;&~_FZj/AhUN#BFUY=*,ku0[G+XPpRnQO1_j]*~|$``REp]6=HfrI[J*8*^#[pl*-pe'_3Mkcua;$L;nJ-`=f&@KdOCUeEu@PE9?D`!QYTP!=WSO
HxWoAT:ZC~Z7?#wOPP6mUZfHf70?*(xL86i0?mF.0R3KL8U2B8V7&+=@z43|1.b;02g(`3#sgvGkwQ=4hIx%51:.e7*F/KHJq's p_uVu%VnZ6BJ)YO)rzO
[=5;OZ%~jP#k4#X3c:0j0|laFrM[lkkTG5;+SSG*-bdWeVC66=s!/xIorhRApcruk2fFZ9OE408xer9:wsLvfC.Vbp_>$E(:l.Ei6G2+/vX[(#7CNtpeC&9
cJM08(/C'i^S7AQ&u^5I[T9)K(kyqN#W|['27L3F:,vziTRzV63<n2_;]2/SJIOAX,AHd'/0)(hV#YAN]JZ0/PcY]aAMeF%-y_9p=vW$<776sc*]'!Q)3=4
i>L*]>]7x-hdHhMpoS#F+vBS|#z-PniSS-Kgc cmxf]alyy9O.H!A-HAt~1?aDXc[XL]l?#dlB@qV~EMRXo:DDmEdGc6mw7',;oag1/+I3HqVde|oaAh]$r
klkyZVJ?E]b=ra1.aLl0di_URmM=Q=NaVbvle3hY~q:mIbU$@,t0n3u=#YPq4:yqn%[>&G?r$3d.A$i9ebla~$Ec#$BBl!Qc+CDgfYiQIfcu^<8k&1#moTz
PVBi)y-M1sZM-7q--/c.F+-PAY*!o;#P2/O'%g>M~,K0JoRpMc|lD(]RstL0Q]qf`q6V>6bag=1%rGBMz<F$u=Gf'IA%hNOfq`,v@;la! 1&vDdtdtUyR-`
=l+16-g(hnou_M=_/C7;w#MRi|uL_V-F#KYI!k/eg~SqRbC5Kjv5$sv8s~ID3zDp9V78*ET>!Cl)7v+K3xbJDEceG`Lv/a66+in=O~)e1y02&EVEk4u_IFW
;,_V?(xL<eD'3K-jKTjBN9#w2e2qxF8l;a>GKO0BI.2OAs|ns]fK->sN]8hF//xoPhM2C_rd5ae,uT]5#S4@U+k-X1O0+b>uxZ]WN 1(w5n,t4$CFu;7Cm~
X0)@0y,9pfdT.z#YJ,A$heAOzzARM*(0D2+K#)_7A?M@48ZM(=$%:otG#S4jb_LU,=!_XOO@Z~?TdQ<0|H*X._W#$Zq5@zOp#[*UJ]8nngY@(H47HrUtm?k
Y)<_zaHjOhFwP;?;mBH[q-t7cYNYK=&dPb:.9Pv/4ilnCKkd@~0b5&$Hmd=/Gc8Jd|Rj1o0R)an-rG>%TG!@j>2s'fN2L7TqXHbb*G-zV$%4M(H.YCw&^|Q
9iBT'Gi^KX3p4e5hL,^7;?;9:^2<|/!937z-9^8DQ-%j1D"

def digits : Chars :=
  "0123456789ABCDEFGHIJKLMNOPQRSTUVWXYZabcdefghijklmnopqrstuvwxyz!#$%&()*+,:;<=>?[]^_|~.@'`-/".toList

def widths := [45, 47, 49, 51, 54, 64]

/-- Reads the angles of a row. Each is a tenth more than in the row before, a tenth less, or so many doubles away from
its guess, by a number of as many bits as the width says. -/
def row : Nat → List (Float × Float) → Floats
  | _, [] => []
  | code, (x, guess) :: before =>
    match code % 8 with
    | 0 => (x + 0.1) :: row (code / 8) before
    | 1 => (x - 0.1) :: row (code / 8) before
    | k =>
      let span := 2 ^ widths.getD (k - 2) 0
      .ofBits (guess.toBits + ((code / 8 % span).toUInt64 - (span / 2).toUInt64)) :: row (code / 8 / span) before

def triangle (angles : Floats) : List Floats :=
  (List.range 6).map fun k => (angles.drop (k * (k + 1) / 2)).take (k + 1)

def strengths := 16

def angles? (branches strength : Nat) : Option (List Floats × List Floats) :=
  if 2 ≤ branches && branches ≤ 8 && strength < strengths then
    let rows := (String.ofList (table.toList.filter (· != '\n'))).splitOn " "
    let rows := (rows.take ((branches - 2) * strengths + strength + 1)).foldl (fun done text =>
      let past (k : Nat) := done.getD k (.replicate 42 0.25)
      let guesses := List.zipWith (· + ·) (past 0) (.zipWith (· - ·) (past 15) (past 16))
      row ((text.toList.filterMap digits.idxOf?).foldl (fun n d => 90 * n + d) 0) ((past 0).zip guesses) :: done) []
    let found := rows.headD []
    some (triangle found, triangle (found.drop 21))
  else none

end Transmon.Ansatz.TreeAngles
