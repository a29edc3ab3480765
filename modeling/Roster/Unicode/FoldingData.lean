/-!
How characters of host names are folded: which stand for others, which for nothing, and which are
refused. Each row lists its numbers in base 36.
-/

namespace Roster.Unicode

/-- Rows of first character, count, distance, and first replacement; with distance 0 all go to
one. -/
def foldingRuns : String :=
  "1t,q,1,2p;4g,1,1,w;4q,1,1,2p;4y,2,1,1e;51,1,1,qk;55,1,1,1d;56,1,1,33;5c,n,1,68;60,7,1,6w;
    74,o,2,75;8k,2,2,8l;8p,3,2,8q;8x,4,2,8y;96,n,2,97;ag,1,1,73;ah,3,2,ai;an,1,1,37;ap,1,1,gj;
    aq,2,2,ar;au,1,1,gk;av,1,1,aw;ax,2,1,gm;az,1,1,b0;b2,1,1,d9;b3,1,1,gp;b4,1,1,gr;b5,1,1,b6;
    b7,1,1,gw;b8,1,1,gz;ba,1,1,h5;bb,1,1,h4;bc,1,1,bd;bg,1,1,hb;bh,1,1,he;bj,1,1,hh;bk,3,2,bl;
    bq,1,1,hs;br,1,1,bs;bt,1,1,hv;bw,1,1,bx;by,1,1,i0;bz,1,1,c0;c1,2,1,i2;c3,2,2,c4;c7,1,1,ia;
    c8,1,1,c9;cc,1,1,cd;ct,8,2,cu;da,9,2,db;dw,1,1,dx;dy,1,1,b9;dz,1,1,cf;e0,k,2,e1;f4,1,1,bi;
    f6,9,2,f7;fu,1,1,8rp;fv,1,1,fw;fx,1,1,be;fy,1,1,8rq;g1,1,1,g2;g3,1,1,ao;g4,1,1,i1;g5,1,1,i4;
    g6,5,2,g7;j4,2,2,2w;j5,1,1,h2;j7,1,1,36;j8,1,1,hl;j9,1,1,hn;ja,1,1,ht;jb,1,1,3b;jc,1,1,3d;
    kg,1,1,gz;kh,1,1,30;ki,1,1,37;kj,1,1,3c;kk,1,1,id;n4,2,1,lc;n7,1,1,lv;n9,1,1,qh;og,2,2,oh;
    ok,1,1,jd;om,1,1,on;ou,1,1,1n;ov,1,1,s3;p2,1,1,q4;p3,1,1,53;p4,3,1,q5;p8,1,1,r0;pa,2,1,r1;
    pd,h,1,q9;pv,9,1,qr;r3,1,1,rb;r4,1,1,qa;r5,1,1,qg;r6,1,1,qt;r7,1,1,r1;r8,1,1,qz;r9,1,1,qu;
    ra,1,1,qo;rc,c,2,rd;s0,1,1,qi;s1,1,1,qp;s2,1,1,qr;s4,1,1,qg;s5,1,1,qd;s7,1,1,s8;s9,1,1,qr;
    sa,1,1,sb;sd,3,1,or;sg,g,1,uo;sw,w,1,ts;v4,h,2,v5;wa,r,2,wb;xs,1,1,y7;xt,7,2,xu;y8,1c,2,y9;
    10x,12,1,129;2z0,1,1,2yz;3a8,12,1,8w0;3bb,1,1,8x3;3bh,1,1,8x9;3cs,1,1,3bw;3y0,6,1,3xs;
    5mo,1,1,tu;5mp,1,1,tw;5mq,1,1,u6;5mr,2,1,u9;5mt,1,1,ua;5mu,1,1,ui;5mv,1,1,v7;5mw,1,1,wuj;
    5mx,1,1,5my;5n4,17,1,3bk;5od,3,1,3ct;5rg,1,1,2p;5rh,1,1,6e;5ri,2,2,2q;5rl,5,2,2t;5rm,1,1,d9;
    5ro,4,2,2w;5rw,1,1,33;5rx,1,1,f7;5ry,1,1,34;5rz,1,1,36;5s0,2,1,38;5s2,1,1,3b;5s3,1,1,2p;
    5s4,2,1,gg;5s6,1,1,5qa;5s7,1,1,2q;5s8,2,1,2s;5sa,1,1,gp;5sb,2,1,gr;5sd,1,1,2v;5sf,1,1,2z;
    5sg,2,2,31;5sh,1,1,97;5sj,1,1,gk;5sk,2,1,5qu;5sm,1,1,34;5sn,2,1,38;5sp,1,1,5r1;5sq,1,1,hb;
    5sr,1,1,3a;5ss,1,1,5r9;5st,3,1,qa;5sw,2,1,qu;5sy,1,1,2x;5sz,1,1,36;5t0,2,1,39;5t2,2,1,qa;
    5t4,1,1,qp;5t5,2,1,qu;5tk,1,1,u5;5uj,1,1,gi;5uk,1,1,2r;5ul,1,1,gl;5um,1,1,6o;5un,1,1,gs;
    5uo,1,1,2u;5up,1,1,gv;5uq,1,1,gx;5ur,1,1,h1;5us,3,1,h4;5uv,1,1,5tn;5uw,1,1,il;5ux,1,1,h9;
    5uy,1,1,5tx;5uz,1,1,in;5v0,1,1,hd;5v1,1,1,hc;5v2,4,1,he;5v6,1,1,hk;5v7,2,1,hu;5v9,1,1,bv;
    5va,2,1,i1;5vc,1,1,5r0;5vd,2,1,i3;5vf,1,1,3e;5vg,3,1,i8;5vj,1,1,qg;5xc,23,2,5xd;61n,1,1,601;
    61q,1,1,67;61s,1c,2,61t;64o,8,1,64g;654,6,1,64w;65k,8,1,65c;660,8,1,65s;66g,6,1,668;
    66x,4,2,66p;67c,8,1,674;67l,1,1,q4;67n,1,1,q5;67p,1,1,q6;67r,1,1,q7;67t,1,1,r0;67v,1,1,r1;
    67x,1,1,r2;69k,2,1,69c;69m,1,1,67k;69n,1,1,q4;69q,1,1,qh;6a0,2,2,67m;6a1,1,1,q5;6a3,1,1,q6;
    6ab,1,1,pc;6ag,2,1,6a8;6ai,1,1,67q;6aj,1,1,q7;6ar,1,1,q8;6aw,2,1,6ao;6ay,1,1,67u;6az,1,1,r1;
    6b0,1,1,6at;6b3,1,1,2o;6bc,1,1,67s;6bd,2,2,r0;6be,1,1,67w;6bk,b,0,w;6c1,1,1,6c0;6cv,1,1,w;
    6e7,1,1,w;6eo,1,1,1c;6ep,1,1,2x;6es,6,1,1g;6ey,1,1,17;6ez,1,1,6qa;6f0,1,1,1p;6f1,2,1,14;
    6f3,1,1,32;6f4,a,1,1c;6fe,1,1,17;6ff,1,1,6qa;6fg,1,1,1p;6fh,2,1,14;6fk,1,1,2p;6fl,1,1,2t;
    6fm,1,1,33;6fn,1,1,3c;6fo,1,1,gp;6fp,1,1,2w;6fq,4,1,2z;6fu,1,1,34;6fv,2,1,37;6iq,1,1,2r;
    6iv,1,1,gr;6iy,2,1,2v;6j0,3,0,2w;6j3,1,1,87;6j4,2,0,2x;6j6,2,0,30;6j9,1,1,32;6jd,3,1,34;
    6jg,2,0,36;6jo,1,1,3e;6jq,1,1,qx;6js,1,1,3e;6ju,1,1,2z;6jv,1,1,6d;6jw,2,1,2q;6jz,2,0,2t;
    6k1,1,1,2u;6k2,1,1,6ku;6k3,1,1,31;6k4,1,1,33;6k5,4,1,15c;6k9,1,1,2x;6kc,1,1,qo;6kd,2,0,qb;
    6kf,1,1,qo;6kg,1,1,6q9;6kl,2,0,2s;6kn,1,1,2t;6ko,2,1,2x;6lc,1,1,2x;6lg,1,1,3a;6ll,1,1,3c;
    6lo,1,1,30;6lp,2,1,2r;6lr,1,1,31;6ls,1,1,2x;6lw,1,1,3a;6m1,1,1,3c;6m4,1,1,30;6m5,2,1,2r;
    6m7,1,1,31;6mb,1,1,6mc;6y1,2,1,9hk;76o,9,1,1d;792,q,1,2p;79s,q,1,2p;7ai,1,1,1c;8ow,1c,1,8q8;
    8rk,1,1,8rl;8rm,1,1,h7;8rn,1,1,5tp;8ro,1,1,hp;8rr,3,2,8rs;8rx,1,1,gh;8ry,1,1,hd;8rz,1,1,gg;
    8s0,1,1,gi;8s2,1,1,8s3;8s5,1,1,8s6;8sc,1,1,2y;8sd,1,1,3a;8se,2,1,fz;8sg,1e,2,8sh;
    8vf,2,2,8vg;8vm,1,1,8vn;8z3,1,1,8yp;97j,1,1,lal;99v,1,1,vj3;9a8,1,1,feo;9a9,1,1,ffs;
    9aa,1,1,fg6;9ab,1,1,fgf;9ac,1,1,fh5;9ad,1,1,fid;9ae,1,1,fik;9af,1,1,fj4;9ag,1,1,fju;
    9ah,1,1,g1r;9ai,1,1,g2t;9aj,1,1,g2z;9ak,1,1,g3m;9al,1,1,g46;9am,1,1,g4r;9an,1,1,g68;
    9ao,1,1,g6t;9ap,1,1,g74;9aq,1,1,gbf;9ar,1,1,ge1;9as,1,1,get;9at,1,1,gey;9au,1,1,gfs;
    9av,1,1,gg1;9aw,1,1,ggs;9ax,1,1,gh5;9ay,1,1,ghu;9az,1,1,gja;9b0,1,1,gjs;9b1,1,1,gkj;
    9b2,1,1,h5j;9b3,1,1,h7j;9b4,1,1,hkb;9b5,1,1,hky;9b6,1,1,hl6;9b7,1,1,hlh;9b8,1,1,hlz;
    9b9,1,1,ho3;9ba,1,1,i1c;9bb,1,1,i2o;9bc,1,1,i60;9bd,1,1,i6n;9be,1,1,i76;9bf,1,1,i7s;
    9bg,1,1,i9a;9bh,1,1,i9d;9bi,1,1,ijf;9bj,1,1,ijp;9bk,1,1,ik1;9bl,1,1,ike;9bm,1,1,inm;
    9bn,1,1,inu;9bo,1,1,inz;9bp,1,1,ir8;9bq,1,1,iri;9br,1,1,irv;9bs,1,1,is3;9bt,1,1,its;
    9bu,1,1,iu9;9bv,1,1,iur;9bw,1,1,iwz;9bx,1,1,jd4;9by,1,1,jee;9bz,1,1,jez;9c0,1,1,jzj;
    9c1,1,1,jzo;9c2,1,1,k1z;9c3,1,1,k2f;9c4,1,1,k2s;9c5,1,1,k3d;9c6,1,1,k4g;9c7,1,1,k4l;
    9c8,1,1,kc0;9c9,1,1,kco;9ca,1,1,kdk;9cb,1,1,l5s;9cc,1,1,l7m;9cd,1,1,l89;9ce,1,1,l9v;
    9cf,1,1,laj;9cg,1,1,las;9ch,1,1,laz;9ci,1,1,lcf;9cj,1,1,lck;9ck,1,1,ldg;9cl,1,1,m7f;
    9cm,1,1,mju;9cn,1,1,mk6;9co,1,1,mkb;9cp,1,1,mkf;9cq,1,1,mkn;9cr,1,1,ml5;9cs,1,1,ml7;
    9ct,1,1,mng;9cu,1,1,mtg;9cv,1,1,mtl;9cw,1,1,n30;9cx,1,1,n3a;9cy,1,1,n4o;9cz,1,1,n4v;
    9d0,1,1,n54;9d1,1,1,n5c;9d2,1,1,n7v;9d3,1,1,n82;9d4,1,1,nee;9d5,1,1,nel;9d6,1,1,nfy;
    9d7,1,1,ngf;9d8,1,1,nhq;9d9,1,1,nob;9da,1,1,noi;9db,1,1,noz;9dc,1,1,ny2;9dd,1,1,o1k;
    9de,1,1,o1q;9df,1,1,o6s;9dg,1,1,o97;9dh,1,1,oah;9di,1,1,okz;9dj,1,1,ooo;9dk,1,1,p4m;
    9dl,1,1,p5d;9dm,1,1,p6y;9dn,1,1,p8d;9do,1,1,pa9;9dp,1,1,pak;9dq,1,1,paq;9dr,1,1,pbn;
    9ds,1,1,pdr;9dt,1,1,pe1;9du,1,1,pnn;9dv,1,1,pnu;9dw,1,1,po3;9dx,1,1,poc;9dy,1,1,pos;
    9dz,1,1,pp7;9e0,1,1,ppb;9e1,1,1,pri;9e2,1,1,prm;9e3,1,1,prs;9e4,1,1,qj1;9e5,1,1,qjv;
    9e6,1,1,qww;9e7,1,1,qx8;9e8,1,1,qxv;9e9,1,1,r5q;9ea,1,1,r63;9eb,1,1,r82;9ec,1,1,r9c;
    9ed,1,1,rp3;9ee,1,1,rpi;9ef,1,1,rpx;9eg,1,1,rqw;9eh,1,1,rrx;9ei,1,1,rxg;9ej,1,1,rxs;
    9ek,1,1,rzn;9el,1,1,s6j;9em,1,1,s7e;9en,1,1,sd7;9eo,1,1,sds;9ep,1,1,sdx;9eq,1,1,sk1;
    9er,1,1,sp5;9es,1,1,ssm;9et,1,1,sss;9eu,1,1,ssx;9ev,1,1,tiv;9ew,1,1,tj4;9ex,1,1,tng;
    9ey,1,1,trq;9ez,1,1,trt;9f0,1,1,tt4;9f1,1,1,tw1;9f2,1,1,twe;9f3,1,1,twi;9f4,1,1,twp;
    9f5,1,1,tzf;9f6,1,1,u0d;9f7,1,1,u0j;9f8,1,1,u0x;9f9,1,1,u5k;9fa,1,1,u6z;9fb,1,1,u73;
    9fc,1,1,uc6;9fd,1,1,uc9;9fe,1,1,ucs;9ff,1,1,ujs;9fg,1,1,ul4;9fh,1,1,ulb;9fi,1,1,un9;
    9fj,1,1,unj;9fk,1,1,unm;9fl,1,1,unw;9fm,1,1,uoq;9fn,1,1,uzp;9fo,1,1,vat;9fp,1,1,vb3;
    9fq,1,1,vc5;9fr,1,1,vcr;9fs,1,1,vcz;9ft,1,1,vd9;9fu,1,1,vdd;9fv,1,1,veh;9fw,1,1,vel;
    9fx,1,1,vf2;9fy,1,1,vf7;9fz,1,1,vfk;9g0,1,1,vgb;9g1,1,1,vgq;9g2,1,1,vgy;9g3,1,1,vil;
    9g4,1,1,vj0;9g5,1,1,vj4;9hc,1,1,w;9he,1,1,1a;9iu,1,1,9hu;9iw,1,1,gg1;9ix,2,1,gg4;
    9pt,2,1,3cw;9pv,2,2,3hm;9pw,1,1,3cy;9py,1,1,3hp;9pz,3,1,3cz;9q2,6,1,3hs;9q8,1,1,3dm;
    9q9,3,1,3d2;9qc,1,1,3dt;9qd,a,1,3d5;9qn,l,1,3fl;9r9,2,1,3dg;9rb,2,1,3if;9rd,1,1,3ik;
    9re,1,1,3im;9rf,1,1,3ir;9rg,1,1,3iv;9rh,1,1,3ix;9ri,1,1,3do;9rj,1,1,3j1;9rk,1,1,3j3;
    9rl,2,1,3dp;9rn,1,1,3ds;9ro,2,1,3du;9rq,1,1,3dz;9rr,1,1,3e1;9rs,5,1,3e3;9rx,1,1,3ea;
    9ry,1,1,3ee;9rz,1,1,3eo;9s0,1,1,3ev;9s1,1,1,3f0;9s2,2,1,3jl;9s4,3,1,3fb;9s7,2,1,3gk;
    9s9,1,1,3go;9sa,2,1,3gx;9sc,1,1,3h0;9sd,1,1,3ha;9se,1,1,3hd;9si,1,1,feo;9sj,1,1,fik;
    9sk,1,1,fex;9sl,1,1,h5n;9sm,1,1,fey;9sn,1,1,ffx;9so,1,1,fez;9sp,1,1,n5e;9sq,1,1,fh5;
    9sr,1,1,ffd;9ss,1,1,fep;9st,1,1,hm1;9su,1,1,h80;9sv,1,1,fju;9xg,1,1,gun;9xh,1,1,inw;
    9xi,1,1,k1z;9xj,1,1,oen;9y8,1,1,3cw;9y9,2,1,3cy;9yb,3,1,3d1;9ye,1,1,3d5;9yf,2,1,3d7;
    9yh,5,1,3da;9ym,1,1,xz4;9yn,1,1,yvs;9yo,1,1,zc4;9yp,1,1,108s;9yq,1,1,10p4;9yr,1,1,115g;
    9ys,1,1,1224;9yt,1,1,12ys;9yu,1,1,13f4;9yv,1,1,14bs;9yw,1,1,14s4;9yx,1,1,158g;9yy,1,1,15os;
    9yz,1,1,1654;9z2,1,1,138w;9z4,1,1,feo;9z5,1,1,fik;9z6,1,1,fex;9z7,1,1,h5n;9z8,1,1,fis;
    9z9,1,1,g31;9za,1,1,fer;9zb,1,1,g2z;9zc,1,1,fh9;9zd,1,1,gg1;9ze,1,1,kco;9zf,1,1,m7f;
    9zg,1,1,ldg;9zh,1,1,kdk;9zi,1,1,ssx;9zj,1,1,h7j;9zk,1,1,k4l;9zl,1,1,kkq;9zm,1,1,kcp;
    9zn,1,1,ny6;9zo,1,1,glp;9zp,1,1,mm1;9zq,1,1,rs1;9zr,1,1,nz1;9zs,1,1,gc4;9zt,1,1,o2g;
    9zu,1,1,n5j;9zv,1,1,ho3;9zw,1,1,six;9zx,1,1,g16;9zy,1,1,ghc;9zz,1,1,lig;a00,1,1,u11;
    a01,1,1,fm9;a02,1,1,g49;a03,1,1,l7n;a04,1,1,fey;a05,1,1,ffx;a06,1,1,fez;a07,1,1,ijq;
    a08,1,1,gkz;a09,1,1,gfv;a0a,1,1,i3b;a0b,1,1,i1y;a0c,1,1,nhf;a0d,1,1,flt;a0e,1,1,rt3;
    a0f,1,1,ggk;a0g,1,1,hlo;a1c,1,1,9lu;a1d,1,1,9lw;a1e,1,1,9ly;a1f,1,1,9m0;a1g,2,1,9m2;
    a1i,1,1,9m5;a1j,1,1,9m7;a1k,1,1,9m9;a1l,1,1,9mb;a1m,1,1,9md;a1n,1,1,9mf;a1o,1,1,9mh;
    a1p,1,1,9mj;a1q,1,1,9ml;a1r,1,1,9mn;a1s,1,1,9mp;a1t,1,1,9ms;a1u,1,1,9mu;a1v,1,1,9mw;
    a1w,6,1,9my;a22,1,1,9n6;a23,1,1,9n9;a24,1,1,9nc;a25,1,1,9nf;a26,5,1,9ni;a2b,1,1,9no;
    a2c,1,1,9nq;a2d,6,1,9ns;a2j,4,1,9nz;wu8,n,2,wu9;ww0,e,2,ww1;wws,1,1,ui;wwt,1,1,uk;
    x0i,7,2,x0j;x0y,v,2,x0z;x2o,1,1,x2n;x2x,2,2,x2y;x31,1,1,5tl;x32,5,2,x33;x3f,1,1,x3g;
    x3h,1,1,h1;x3k,2,2,x3l;x3q,a,2,x3r;x4a,1,1,h2;x4b,1,1,gs;x4c,1,1,gx;x4d,1,1,h8;x4e,1,1,h6;
    x4g,1,1,im;x4h,1,1,hz;x4i,1,1,il;x4j,1,1,xub;x4k,8,2,x4l;x50,1,1,x3o;x51,1,1,hu;x52,1,1,5u6;
    x53,2,2,x54;x57,1,1,h0;x58,8,2,x59;x5o,1,1,bf;x69,1,1,37;x6a,1,1,2r;x6b,1,1,2u;x6c,1,1,35;
    x6d,1,1,x6e;x6g,1,1,87;x6h,1,1,9f;xuk,1,1,x0n;xul,1,1,xtj;xum,1,1,h7;xun,1,1,xua;xux,1,1,i5;
    xv4,28,1,3vk;1d6o,1,1,rpk;1d6p,1,1,kc4;1d6q,1,1,s7e;1d6r,1,1,rt4;1d6s,1,1,lw1;1d6t,1,1,fg2;
    1d6u,1,1,gkl;1d6v,2,0,vj0;1d6x,1,1,hn5;1d6y,1,1,ssx;1d6z,1,1,gw7;1d70,1,1,hmw;1d71,1,1,jcm;
    1d72,1,1,ne1;1d73,1,1,p6t;1d74,1,1,qin;1d75,1,1,qt6;1d76,1,1,r20;1d77,1,1,sjz;1d78,1,1,kxu;
    1d79,1,1,ljv;1d7a,1,1,mah;1d7b,1,1,mvy;1d7c,1,1,q4d;1d7d,1,1,sq2;1d7e,1,1,uep;1d7f,1,1,fia;
    1d7g,1,1,ghh;1d7h,1,1,l50;1d7i,1,1,mjf;1d7j,1,1,qi5;1d7k,1,1,v8e;1d7l,1,1,ifk;1d7m,1,1,m3v;
    1d7n,1,1,qfh;1d7o,1,1,r50;1d7p,1,1,jih;1d7q,1,1,pnc;1d7r,1,1,qvz;1d7s,1,1,iq2;1d7t,1,1,kd3;
    1d7u,1,1,lm2;1d7v,1,1,mpo;1d7w,1,1,slq;1d7x,1,1,fpi;1d7y,1,1,g53;1d7z,1,1,gda;1d80,1,1,jwk;
    1d81,1,1,l3n;1d82,1,1,mj4;1d83,1,1,nhj;1d84,1,1,pa9;1d85,1,1,qh2;1d86,1,1,qjg;1d87,1,1,s1b;
    1d88,1,1,tv6;1d89,1,1,upb;1d8a,1,1,v7e;1d8b,1,1,nt8;1d8c,1,1,nzz;1d8d,1,1,otc;1d8e,1,1,q15;
    1d8f,1,1,t1g;1d8g,1,1,vb3;1d8h,1,1,rfa;1d8i,1,1,hjz;1d8j,1,1,iro;1d8k,1,1,okg;1d8l,1,1,pdq;
    1d8m,1,1,mle;1d8n,1,1,nuy;1d8o,1,1,rsy;1d8p,1,1,ttj;1d8q,1,1,hjs;1d8r,1,1,i8y;1d8s,1,1,kyb;
    1d8t,1,1,lp6;1d8u,1,1,lxr;1d8v,1,1,oq7;1d8w,1,1,oxj;1d8x,1,1,tor;1d8y,1,1,gcy;1d8z,1,1,pe3;
    1d90,1,1,g64;1d91,1,1,g5o;1d92,1,1,o4c;1d93,1,1,ou6;1d94,1,1,q29;1d95,1,1,tpx;1d96,1,1,rk0;
    1d97,1,1,jin;1d98,1,1,kxu;1d99,1,1,rge;1d9a,1,1,fg9;1d9b,1,1,i5j;1d9c,1,1,iz6;1d9d,1,1,mtj;
    1d9e,1,1,n74;1d9f,1,1,gev;1d9g,1,1,nwb;1d9h,1,1,fr3;1d9i,1,1,iw9;1d9j,1,1,ff1;1d9k,1,1,lho;
    1d9l,1,1,k1k;1d9m,1,1,opu;1d9n,1,1,gjn;1d9o,1,1,hge;1d9p,1,1,ni9;1d9q,1,1,q4p;1d9r,1,1,re2;
    1d9s,1,1,la2;1d9t,1,1,sds;1d9u,1,1,lfs;1d9v,1,1,jjy;1d9w,1,1,put;1d9x,1,1,jog;1d9y,1,1,n6t;
    1d9z,1,1,fji;1da0,1,1,g2x;1da1,1,1,g5l;1da2,1,1,kn5;1da3,1,1,oo7;1da4,1,1,prj;1da5,1,1,rf6;
    1da6,1,1,ssv;1da7,1,1,gdx;1da8,1,1,gn6;1da9,1,1,ho3;1daa,1,1,ir0;1dab,1,1,k3p;1dac,1,1,m4e;
    1dad,1,1,nxm;1dae,1,1,tkd;1daf,1,1,ui2;1dag,1,1,vbr;1dah,1,1,vda;1dai,1,1,gbf;1daj,1,1,kau;
    1dak,1,1,l87;1dal,1,1,sbm;1dam,1,1,ino;1dan,1,1,j9s;1dao,1,1,jcw;1dap,1,1,jve;1daq,1,1,lyb;
    1dar,1,1,mdl;1das,1,1,n0p;1dat,1,1,o22;1dau,1,1,ovo;1dav,1,1,pdb;1daw,1,1,s9y;1dax,1,1,q9a;
    1day,1,1,sgz;1daz,1,1,t3e;1db0,1,1,g7r;1db1,1,1,gbn;1db2,1,1,gql;1db3,1,1,ma0;1db4,1,1,r0i;
    1db5,1,1,re2;1db6,1,1,iq1;1db7,1,1,iyd;1db8,1,1,jnf;1db9,1,1,l9q;1dba,1,1,oji;1dbb,1,1,mt1;
    1dbc,1,1,fl0;1dbd,1,1,h6h;1dbe,1,1,i5j;1dbf,1,1,iii;1dbg,1,1,izg;1dbh,1,1,muq;1dbi,1,1,mzt;
    1dbj,1,1,p7e;1dbk,1,1,pc6;1dbl,1,1,svo;1dbm,1,1,tti;1dbn,1,1,tvs;1dbo,1,1,u1k;1dbp,1,1,fpn;
    1dbq,1,1,o1a;1dbr,1,1,ss4;1dbs,1,1,trs;1dbt,1,1,j4x;1dbu,1,1,fie;1dbv,1,1,fyy;1dbw,1,1,i5q;
    1dbx,1,1,i7z;1dby,1,1,k2h;1dbz,1,1,kxu;1dc0,1,1,mha;1dc1,1,1,ncy;1dc2,1,1,q9o;1dc3,1,1,sjg;
    1dc4,1,1,vil;1dc5,1,1,k94;1dc6,1,1,tny;1dc7,1,1,gax;1dc8,1,1,kfv;1dc9,1,1,kj7;1dca,1,1,lkx;
    1dcb,1,1,luk;1dcc,1,1,mx5;1dcd,1,1,n6h;1dce,1,1,nsb;1dcf,1,1,opc;1dcg,1,1,u3i;1dch,1,1,g31;
    1dci,1,1,je6;1dcj,1,1,tq0;1dck,1,1,fu3;1dcl,1,1,ie1;1dcm,1,1,lpm;1dcn,1,1,sa2;1dco,1,1,ivf;
    1dcp,1,1,j7o;1dcq,1,1,kk7;1dcr,1,1,mtj;1dcs,1,1,tqe;1dct,1,1,g89;1dcu,1,1,glr;1dcv,1,1,i91;
    1dcw,1,1,k5v;1dcx,1,1,kem;1dcy,1,1,ko8;1dcz,1,1,lid;1dd0,1,1,mx2;1dd1,1,1,naa;1dd2,1,1,p6h;
    1dd3,1,1,r0v;1dd4,1,1,r1d;1dd5,1,1,sss;1dd6,1,1,tsy;1dd7,1,1,gfz;1dd8,1,1,lve;1dd9,1,1,gm5;
    1dda,1,1,mhc;1ddb,1,1,n14;1ddc,1,1,qgq;1ddd,1,1,tr7;1dde,1,1,uvr;1ddf,1,1,vbz;1ddg,1,1,kgn;
    1ddh,1,1,lor;1ddi,1,1,pns;1ddj,1,1,o97;1ddk,1,1,obk;1ddl,1,1,olu;1ddm,1,1,mo0;1ddn,1,1,m8p;
    1ddo,1,1,riw;1ddp,1,1,fk0;1ddq,1,1,px2;1ddr,1,1,g8q;1dds,1,1,g7b;1ddt,1,1,ip2;1ddu,1,1,jir;
    1ddv,1,1,onq;1ddw,1,1,i2t;1ddx,1,1,ljy;1ddy,1,1,kac;1ddz,1,1,saj;1de0,1,1,qx8;1de1,1,1,tot;
    1de2,1,1,r63;1de3,1,1,iqb;1de4,1,1,g1s;1de5,1,1,gxs;1de8,1,1,hga;1dea,1,1,k8k;1ded,1,1,g66;
    1dee,1,1,mqy;1def,1,1,ngq;1deg,1,1,ny4;1deh,1,1,nz2;1dei,1,1,nz9;1dej,1,1,o0f;1dek,1,1,tw6;
    1del,1,1,on2;1dem,1,1,p8d;1deo,1,1,qhe;1deq,1,1,rg8;1det,1,1,shk;1deu,1,1,sn1;1dey,1,1,u7j;
    1dez,1,1,u7w;1df0,1,1,u94;1df1,1,1,v5g;1df2,1,1,sm6;1df3,1,1,trr;1df4,1,1,fqm;1df5,1,1,fzb;
    1df6,1,1,g25;1df7,1,1,gcp;1df8,1,1,gdg;1df9,1,1,ggh;1dfa,1,1,gwt;1dfb,1,1,gzq;1dfc,1,1,h2g;
    1dfd,1,1,hfk;1dfe,1,1,hig;1dff,1,1,i90;1dfg,1,1,i9a;1dfh,1,1,j2s;1dfi,1,1,j8o;1dfj,1,1,j9q;
    1dfk,1,1,jci;1dfl,1,1,k0f;1dfm,1,1,k4i;1dfn,1,1,k9d;1dfo,1,1,kn9;1dfp,1,1,lmf;1dfq,1,1,lqy;
    1dfr,1,1,lya;1dfs,1,1,mem;1dft,1,1,mjv;1dfu,1,1,mxu;1dfv,1,1,ntd;1dfw,1,1,ny6;1dfx,1,1,nyh;
    1dfy,1,1,nyg;1dfz,1,1,nyo;1dg0,1,1,nyu;1dg1,1,1,nz1;1dg2,2,1,o0d;1dg4,1,1,o5c;1dg5,1,1,o75;
    1dg6,1,1,og0;1dg7,1,1,ovo;1dg8,1,1,ow9;1dg9,1,1,oxt;1dga,1,1,p6a;1dgb,1,1,pad;1dgc,1,1,pnx;
    1dgd,2,0,prt;1dgf,1,1,q53;1dgg,1,1,r2o;1dgh,1,1,r6e;1dgi,1,1,rgh;1dgj,1,1,ri1;1dgk,1,1,rtf;
    1dgl,1,1,ruw;1dgm,1,1,sdy;1dgn,1,1,shk;1dgo,1,1,tsz;1dgp,1,1,u0v;1dgq,1,1,u2j;1dgr,1,1,j1x;
    1dgs,1,1,36cu;1dgt,1,1,pp4;1dgw,1,1,ffq;1dgx,1,1,g51;1dgy,1,1,g2w;1dgz,1,1,fpc;1dh0,1,1,g1x;
    1dh1,1,1,g3k;1dh2,1,1,gcn;1dh3,1,1,ge2;1dh4,1,1,gwt;1dh5,1,1,gut;1dh6,1,1,gwp;1dh7,1,1,gyq;
    1dh8,1,1,hga;1dh9,1,1,hir;1dha,1,1,hms;1dhb,1,1,hn8;1dhc,1,1,huq;1dhd,1,1,i08;1dhe,1,1,iqa;
    1dhf,1,1,iqh;1dhg,1,1,iuh;1dhh,1,1,iwd;1dhi,1,1,j4o;1dhj,1,1,j7y;1dhk,1,1,j60;1dhl,1,1,j9q;
    1dhm,1,1,j8g;1dhn,1,1,jci;1dho,1,1,jec;1dhp,1,1,jpg;1dhq,1,1,jrw;1dhr,1,1,jte;1dhs,1,1,k0m;
    1dht,1,1,k8k;1dhu,1,1,kd3;1dhv,1,1,kd7;1dhw,1,1,keu;1dhx,1,1,l89;1dhy,1,1,la2;1dhz,1,1,lkx;
    1di0,1,1,lwb;1di1,1,1,lvv;1di2,1,1,lya;1di3,1,1,m5a;1di4,1,1,mem;1di5,1,1,nmv;1di6,1,1,mk5;
    1di7,1,1,mnj;1di8,1,1,mqy;1di9,1,1,n01;1dia,1,1,n46;1dib,1,1,n5n;1dic,1,1,nbx;1did,1,1,nbz;
    1die,1,1,ngq;1dif,1,1,nh7;1dig,1,1,nhw;1dih,1,1,nka;1dii,1,1,nk0;1dij,1,1,nv0;1dik,1,1,o8h;
    1dil,1,1,og0;1dim,1,1,ol7;1din,1,1,orf;1dio,1,1,ovo;1dip,1,1,p4u;1diq,1,1,pad;1dir,1,1,pxu;
    1dis,1,1,q27;1dit,1,1,qrd;1diu,1,1,r41;1div,1,1,r5y;1diw,1,1,r6e;1dix,1,1,ren;1diy,1,1,rg8;
    1diz,1,1,rez;1dj0,1,1,rgh;1dj1,1,1,rge;1dj2,1,1,rfx;1dj3,1,1,ri1;1dj4,1,1,rka;1dj5,1,1,ruw;
    1dj6,1,1,sag;1dj7,1,1,sj6;1dj8,1,1,srd;1dj9,1,1,sxi;1dja,1,1,tq4;1djb,1,1,tsz;1djc,1,1,tw6;
    1djd,1,1,tzv;1dje,1,1,u0v;1djf,1,1,u17;1djg,1,1,u2j;1djh,1,1,umq;1dji,1,1,vj0;1djj,1,1,313e;
    1djk,1,1,3138;1djl,1,1,33dh;1djm,1,1,brx;1djn,1,1,cns;1djo,1,1,cop;1djp,1,1,39e1;
    1djq,1,1,3bgw;1djr,1,1,3i6r;1djs,1,1,vgj;1djt,1,1,vim;1dls,1,1,15u;1dlt,1,1,15c;
    1dlu,2,1,15f;1dlw,3,1,15n;1dlz,1,1,160;1dm0,1,1,162;1dm1,1,1,17;1dn4,2,0,19t;1dn6,4,0,1a3;
    1dna,4,0,1a6;1dne,4,0,1a8;1dni,4,0,1a2;1dnm,4,0,1a7;1dnq,4,0,1a1;1dnu,4,0,1b8;1dny,4,0,1ba;
    1do2,4,0,1ac;1do6,4,0,1ab;1doa,4,0,1ae;1doe,4,0,1af;1doi,2,0,1al;1dok,2,2,1ak;1dol,2,2,1ak;
    1doo,2,0,1ag;1doq,2,0,1aw;1dos,2,0,1ap;1dou,4,0,1bd;1doy,4,0,1bj;1dp2,4,0,1bn;1dp6,4,0,1bl;
    1dpa,2,0,1bu;1dpc,4,0,1bv;1dpg,2,0,1c0;1dpi,4,0,1c1;1dpm,4,0,1by;1dpq,2,0,1ci;1dps,2,0,1cj;
    1dqr,4,0,1bh;1dqv,2,0,1c7;1dqx,2,2,1c6;1dqy,2,2,1c6;1dr2,2,0,1cb;1dr4,2,0,1c5;1dr6,2,0,1c9;
    1dr8,4,0,1cg;1drc,2,0,18p;1drw,4,0,1cc;1e6o,1,1,18;1e6p,1,1,9hd;1e6r,2,1,1m;1e6t,1,1,x;
    1e6u,1,1,1r;1e6v,2,1,9hy;1e7l,1,1,6c4;1e7m,1,1,6c3;1e7n,2,0,2n;1e7p,2,1,14;1e7r,1,1,3f;
    1e7s,1,1,3h;1e7t,2,1,9hw;1e7v,2,1,9hs;1e7x,2,1,9hm;1e7z,2,1,9hk;1e81,4,1,9ho;1e87,1,1,2j;
    1e88,1,1,2l;1e8d,3,0,2n;1e8g,1,1,18;1e8h,1,1,9hd;1e8k,1,1,1n;1e8l,1,1,1m;1e8m,1,1,1r;
    1e8n,1,1,x;1e8o,1,1,6c4;1e8p,2,1,14;1e8r,1,1,3f;1e8s,1,1,3h;1e8t,2,1,9hw;1e8v,1,1,z;
    1e8w,1,1,12;1e8x,2,1,16;1e8z,1,1,19;1e90,1,1,1o;1e91,1,1,1q;1e92,1,1,1p;1e94,1,1,2k;
    1e95,2,1,10;1e97,1,1,1s;1e9s,2,1,17l;1e9u,2,1,17m;1e9w,2,1,17n;1e9y,2,1,17o;1ea0,2,1,17p;
    1ea2,3,0,17q;1ea5,2,0,17r;1ea7,4,0,17s;1eab,2,0,17t;1ead,4,0,17u;1eah,4,0,17v;1eal,4,0,17w;
    1eap,4,0,17x;1eat,4,0,17y;1eax,2,0,17z;1eaz,2,0,180;1eb1,2,0,181;1eb3,2,0,182;1eb5,4,0,183;
    1eb9,4,0,184;1ebd,4,0,185;1ebh,4,0,186;1ebl,4,0,187;1ebp,4,0,188;1ebt,4,0,189;1ebx,4,0,18a;
    1ec1,4,0,18h;1ec5,4,0,18i;1ec9,4,0,18j;1ecd,4,0,18k;1ech,4,0,18l;1ecl,4,0,18m;1ecp,4,0,18n;
    1ect,2,0,18o;1ecv,2,0,18p;1ecx,4,0,18q;1edd,w,1,x;1ee9,q,1,2p;1eez,10,1,2j;1efz,2,1,879;
    1eg1,1,1,1a;1eg2,2,1,9ho;1eg4,1,1,9hd;1eg5,1,1,9ob;1eg6,1,1,9o2;1eg7,1,1,9lt;1eg8,1,1,9lv;
    1eg9,1,1,9lx;1ega,1,1,9lz;1egb,1,1,9m1;1egc,1,1,9nn;1egd,1,1,9np;1ege,1,1,9nr;1egf,1,1,9mr;
    1egg,1,1,9oc;1egh,1,1,9lu;1egi,1,1,9lw;1egj,1,1,9ly;1egk,1,1,9m0;1egl,2,1,9m2;1egn,1,1,9m5;
    1ego,1,1,9m7;1egp,1,1,9m9;1egq,1,1,9mb;1egr,1,1,9md;1egs,1,1,9mf;1egt,1,1,9mh;1egu,1,1,9mj;
    1egv,1,1,9ml;1egw,1,1,9mn;1egx,1,1,9mp;1egy,1,1,9ms;1egz,1,1,9mu;1eh0,1,1,9mw;1eh1,6,1,9my;
    1eh7,1,1,9n6;1eh8,1,1,9n9;1eh9,1,1,9nc;1eha,1,1,9nf;1ehb,5,1,9ni;1ehg,1,1,9no;1ehh,1,1,9nq;
    1ehi,6,1,9ns;1eho,1,1,9nz;1ehp,1,1,9o3;1ehq,2,1,9ll;1eht,2,1,3cw;1ehv,2,2,3hm;1ehw,1,1,3cy;
    1ehy,1,1,3hp;1ehz,3,1,3cz;1ei2,6,1,3hs;1ei8,1,1,3dm;1ei9,3,1,3d2;1eic,1,1,3dt;1eid,a,1,3d5;
    1eiq,6,1,3fl;1eiy,6,1,3fr;1ej6,6,1,3fx;1eje,3,1,3g3;1ejk,2,1,4i;1ejm,1,1,4s;1ejo,1,1,4m;
    1ejp,1,1,4l;1ejq,1,1,6g9;1ejs,1,1,7b6;1ejt,4,1,6mo;1ejx,1,1,7fk;1ejy,1,1,7gr;1fcw,14,1,1fe0;
    1fhs,10,1,1fiw;1fn4,j,2,1fo7;1fn5,5,2,1fo8;1fnh,7,2,1fok;1fnx,3,2,1fp0;1fo5,1,1,1fp8;
    1g1t,2,1,k0;1g1v,1,1,6e;1g1w,1,1,ih;1g1x,1,1,gj;1g1z,2,2,ir;1g20,1,1,xuu;1g22,1,1,is;
    1g23,2,1,gm;1g25,1,1,5u9;1g26,1,1,go;1g27,1,1,gu;1g28,1,1,ix;1g29,1,1,h0;1g2a,1,1,gy;
    1g2b,1,1,gw;1g2c,1,1,ij;1g2d,1,1,87;1g2e,1,1,ik;1g2f,1,1,h3;1g2g,1,1,hw;1g2h,2,1,iy;
    1g2j,1,1,h8;1g2k,1,1,2mmc;1g2l,1,1,x3i;1g2m,1,1,ha;1g2n,1,1,2mmd;1g2o,1,1,i6;1g2p,1,1,2mme;
    1g2q,1,1,6w;1g2r,2,1,hi;1g2t,1,1,35;1g2u,1,1,hm;1g2v,1,1,2mmg;1g2w,2,1,hp;1g2y,1,1,hs;
    1g2z,1,1,iw;1g30,1,1,iu;1g31,1,1,xuv;1g32,1,1,iv;1g33,1,1,i0;1g34,1,1,8s1;1g36,1,1,i7;
    1g37,2,1,ip;1g39,1,1,ig;1g3a,3,1,cg;1g3d,1,1,2mmi;1g3e,1,1,2mn2;1h1c,1f,1,1h34;
    1h74,m,1,1h80;1jfk,w,1,1jgg;20cg,w,1,20dc;20f4,p,1,20fv;2j12,q,1,2p;2j1s,a,1,1c;2kg0,q,1,2p;
    2kgq,q,1,2p;2khg,q,1,2p;2ki6,d,2,2p;2ki7,3,2,2q;2kif,9,2,2y;2kiw,q,1,2p;2kjm,q,1,2p;
    2kkc,2,2,2p;2kkf,1,1,2s;2kki,1,1,2v;2kkl,2,1,2y;2kkp,4,1,32;2kku,8,1,37;2kl2,4,1,2p;
    2kl7,b,2,2u;2kla,3,2,2x;2kli,5,2,35;2kls,q,1,2p;2kmi,q,1,2p;2kn8,2,1,2p;2knb,4,1,2s;
    2knh,8,1,2y;2knq,7,1,37;2kny,q,1,2p;2koo,2,1,2p;2kor,4,1,2s;2kow,5,1,2x;2kp2,1,1,33;
    2kp6,7,1,37;2kpe,q,1,2p;2kq4,q,1,2p;2kqu,q,1,2p;2krk,q,1,2p;2ksa,q,1,2p;2kt0,q,1,2p;
    2ktq,q,1,2p;2kug,q,1,2p;2kv6,q,1,2p;2kvw,q,1,2p;2kwm,q,1,2p;2kxc,q,1,2p;2ky2,q,1,2p;
    2kys,1,1,8h;2kyt,1,1,fr;2kyw,h,1,q9;2kzd,1,1,qg;2kze,7,1,qr;2kzl,1,1,6pz;2kzm,h,1,q9;
    2l03,2,0,qr;2l05,6,1,qs;2l0b,1,1,6pu;2l0c,1,1,qd;2l0d,1,1,qg;2l0e,1,1,qi;2l0f,1,1,qu;
    2l0g,1,1,qp;2l0h,1,1,qo;2l0i,h,1,q9;2l0z,1,1,qg;2l10,7,1,qr;2l17,1,1,6pz;2l18,h,1,q9;
    2l1p,2,0,qr;2l1r,6,1,qs;2l1x,1,1,6pu;2l1y,1,1,qd;2l1z,1,1,qg;2l20,1,1,qi;2l21,1,1,qu;
    2l22,1,1,qp;2l23,1,1,qo;2l24,h,1,q9;2l2l,1,1,qg;2l2m,7,1,qr;2l2t,1,1,6pz;2l2u,h,1,q9;
    2l3b,2,0,qr;2l3d,6,1,qs;2l3j,1,1,6pu;2l3k,1,1,qd;2l3l,1,1,qg;2l3m,1,1,qi;2l3n,1,1,qu;
    2l3o,1,1,qp;2l3p,1,1,qo;2l3q,h,1,q9;2l47,1,1,qg;2l48,7,1,qr;2l4f,1,1,6pz;2l4g,h,1,q9;
    2l4x,2,0,qr;2l4z,6,1,qs;2l55,1,1,6pu;2l56,1,1,qd;2l57,1,1,qg;2l58,1,1,qi;2l59,1,1,qu;
    2l5a,1,1,qp;2l5b,1,1,qo;2l5c,h,1,q9;2l5t,1,1,qg;2l5u,7,1,qr;2l61,1,1,6pz;2l62,h,1,q9;
    2l6j,2,0,qr;2l6l,6,1,qs;2l6r,1,1,6pu;2l6s,1,1,qd;2l6t,1,1,qg;2l6u,1,1,qi;2l6v,1,1,qu;
    2l6w,1,1,qp;2l6x,1,1,qo;2l6y,2,0,rh;2l72,a,1,1c;2l7c,a,1,1c;2l7m,a,1,1c;2l7w,a,1,1c;
    2l86,a,1,1c;2muo,9,1,ts;2mux,3,1,u2;2mv0,b,1,u6;2mvb,1,1,uj;2mvc,2,1,ul;2mve,1,1,ww9;
    2mvf,1,1,yh;2mvg,1,1,uu;2mvh,1,1,uw;2mvi,1,1,yx;2mvj,1,1,xb;2mvk,1,1,y7;2mvl,9,1,ts;
    2mvu,2,1,u2;2mvw,2,1,u6;2mvy,1,1,u9;2mvz,6,1,ub;2mw5,2,1,ui;2mw7,1,1,wh;2mw8,1,1,uu;
    2mw9,1,1,ut;2mwa,1,1,v3;2mwb,1,1,x7;2mwc,1,1,wup;2mwd,1,1,xd;2olc,y,1,2oma;2pkw,2,1,17r;
    2pky,1,1,17w;2pkz,1,1,17z;2pl1,1,1,18o;2pl2,1,1,182;2pl3,1,1,17x;2pl4,1,1,187;2pl5,1,1,18q;
    2pl6,4,1,18j;2pla,1,1,183;2plb,1,1,189;2plc,1,1,18h;2pld,1,1,185;2ple,1,1,18i;2plf,1,1,181;
    2plg,1,1,184;2plh,2,1,17u;2plj,1,1,17y;2plk,1,1,180;2pll,1,1,186;2plm,1,1,188;2pln,1,1,18a;
    2plo,1,1,19q;2plp,1,1,1bu;2plq,1,1,1b5;2plr,1,1,19r;2plt,1,1,17s;2plu,1,1,17w;2plw,1,1,18n;
    2plz,1,1,17x;2pm1,1,1,18q;2pm2,4,1,18j;2pm6,1,1,183;2pm7,1,1,189;2pm8,1,1,18h;2pm9,1,1,185;
    2pma,1,1,18i;2pmc,1,1,184;2pmd,2,1,17u;2pmf,1,1,17y;2pmh,1,1,186;2pmj,1,1,18a;2pmq,1,1,17w;
    2pmv,1,1,17x;2pmx,1,1,18q;2pmz,2,2,18k;2pn2,1,1,183;2pn3,1,1,189;2pn5,1,1,185;2pn6,1,1,18i;
    2pn8,1,1,184;2pnb,1,1,17y;2pnd,1,1,186;2pnf,1,1,18a;2pnh,1,1,1bu;2pnj,1,1,19r;2pnl,1,1,17s;
    2pnm,1,1,17w;2pno,1,1,18n;2pnr,1,1,17x;2pns,1,1,187;2pnt,1,1,18q;2pnu,2,2,18j;2pnx,1,1,18m;
    2pny,1,1,183;2pnz,1,1,189;2po0,1,1,18h;2po1,1,1,185;2po2,1,1,18i;2po4,1,1,184;2po5,2,1,17u;
    2po7,1,1,17y;2po9,1,1,186;2poa,1,1,188;2pob,1,1,18a;2poc,1,1,19q;2poe,1,1,1b5;2pog,2,1,17r;
    2poi,1,1,17w;2poj,1,1,17z;2pok,2,1,18n;2pom,1,1,182;2pon,1,1,17x;2poo,1,1,187;2pop,1,1,18q;
    2por,3,1,18k;2pou,1,1,183;2pov,1,1,189;2pow,1,1,18h;2pox,1,1,185;2poy,1,1,18i;2poz,1,1,181;
    2pp0,1,1,184;2pp1,2,1,17u;2pp3,1,1,17y;2pp4,1,1,180;2pp5,1,1,186;2pp6,1,1,188;2pp7,1,1,18a;
    2ppd,1,1,17s;2ppe,1,1,17w;2ppf,1,1,17z;2pph,1,1,18o;2ppi,1,1,182;2ppj,1,1,17x;2ppk,1,1,187;
    2ppl,1,1,18q;2ppn,3,1,18k;2ppq,1,1,183;2ppr,1,1,189;2pps,1,1,18h;2ppt,1,1,185;2ppu,1,1,18i;
    2ppv,1,1,181;2ppw,1,1,184;2ppx,2,1,17u;2ppz,1,1,17y;2pq0,1,1,180;2pq1,1,1,186;2pq2,1,1,188;
    2pq3,1,1,18a;2q7f,1,1,2r;2q7g,1,1,36;2q7k,q,1,2p;2qde,1,1,9md;2qds,1,1,jez;2qdt,1,1,i1j;
    2qdu,1,1,gjw;2qdv,1,1,9mv;2qdw,1,1,fik;2qdx,1,1,hlm;2qdy,1,1,r8j;2qdz,1,1,hm1;2qe0,1,1,fj8;
    2qe1,1,1,k68;2qe2,1,1,mch;2qe3,1,1,k2h;2qe4,1,1,g99;2qe5,1,1,ivg;2qe6,1,1,g3x;2qe7,1,1,k34;
    2qe8,1,1,g7x;2qe9,1,1,oqq;2qea,1,1,n4v;2qeb,1,1,rs9;2qec,1,1,hkg;2qed,1,1,gmx;2qee,1,1,lxw;
    2qef,1,1,jh1;2qeg,1,1,jmd;2qeh,1,1,feo;2qei,1,1,fex;2qej,1,1,si2;2qek,1,1,ijq;2qel,1,1,ffx;
    2qem,1,1,gkz;2qen,1,1,jk7;2qeo,1,1,rxs;2qep,1,1,jf7;2qeq,1,1,o01;2qer,1,1,o6y;2qes,1,1,glk;
    2qet,1,1,lts;2qeu,1,1,kcp;2qev,1,1,kco;2qew,1,1,n5f;2qex,1,1,gaa;2qey,1,1,gxi;2qez,1,1,sp9;
    2qfk,1,1,ivr;2qfl,1,1,gkv;2sc0,a,1,1c;464g,1,1,fgd;464h,1,1,fg8;464i,1,1,fgh;464j,1,1,2tcy;
    464k,1,1,fog;464l,1,1,fqm;464m,1,1,fqz;464n,1,1,fsy;464o,1,1,fwa;464p,1,1,fx5;464q,1,1,fzb;
    464r,1,1,fyn;464s,1,1,ae6;464t,1,1,2ud6;464u,1,1,g25;464v,1,1,g2c;464w,1,1,g2s;464x,1,1,g3b;
    464y,1,1,2u58;464z,1,1,aex;4650,1,1,g2v;4651,1,1,g3x;4652,1,1,2u6j;4653,1,1,g47;
    4654,1,1,g4k;4655,1,1,fkc;4656,1,1,g4s;4657,1,1,g51;4658,1,1,3ly7;4659,1,1,g6t;465a,1,1,g77;
    465b,1,1,afz;465c,1,1,g8r;465d,1,1,g92;465e,1,1,gaa;465f,1,1,gaf;465g,1,1,ahh;465h,1,1,gcn;
    465i,1,1,gcp;465j,1,1,gdg;465k,1,1,ge2;465l,2,1,ged;465n,1,1,gev;465o,1,1,gg9;465p,1,1,ggh;
    465q,1,1,ggq;465r,1,1,ghf;465s,2,2,ghp;465t,1,1,ghr;465v,1,1,ghr;465w,1,1,2v58;465x,1,1,m7k;
    465y,1,1,gju;465z,1,1,gkf;4660,1,1,2vdv;4661,1,1,gkr;4662,1,1,gkx;4663,1,1,gli;4664,1,1,gpq;
    4665,1,1,gmw;4666,1,1,gnc;4667,1,1,go8;4668,1,1,gpu;4669,1,1,gs6;466a,1,1,gsw;466b,1,1,gur;
    466c,1,1,gv7;466d,2,0,gw4;466f,1,1,gwp;466g,1,1,gx7;466h,1,1,gxf;466i,1,1,gxu;466j,1,1,h7a;
    466k,1,1,gzq;466l,1,1,h7b;466m,1,1,h1t;466n,1,1,h2s;466o,1,1,g7b;466p,1,1,hke;466q,1,1,hce;
    466r,1,1,hdg;466s,1,1,he5;466t,1,1,haj;466u,1,1,hf6;466v,1,1,hf5;466w,1,1,hik;466x,1,1,2x9g;
    466y,1,1,hki;466z,1,1,hkn;4670,1,1,hl2;4671,1,1,hlm;4672,1,1,hlu;4673,1,1,hnm;4674,1,1,2xm0;
    4675,1,1,2xnu;4676,1,1,hrg;4677,1,1,hsr;4678,1,1,ht3;4679,1,1,hqw;467a,1,1,huu;467b,1,1,aum;
    467c,1,1,av0;467d,1,1,hzc;467e,2,0,i0u;467g,1,1,2y88;467h,1,1,i4j;467i,1,1,i54;467j,1,1,i5j;
    467k,1,1,i5v;467l,1,1,2yhk;467m,1,1,i67;467n,1,1,i6e;467o,1,1,itv;467p,1,1,i76;467q,1,1,ayp;
    467r,1,1,i8w;467s,1,1,i9a;467t,1,1,ibk;467u,1,1,ia5;467v,2,2,2z1g;467w,1,1,if7;467y,1,1,ige;
    467z,1,1,igb;4680,1,1,igs;4681,2,1,ijl;4683,1,1,b3j;4684,1,1,ikd;4685,1,1,ilk;4686,1,1,im5;
    4687,1,1,ind;4688,1,1,b4y;4689,1,1,2zr7;468a,1,1,b5o;468b,1,1,ipc;468c,1,1,ipf;468d,1,1,ipi;
    468e,1,1,iq2;468f,1,1,3pg2;468g,1,1,iri;468h,2,0,3035;468j,1,1,poh;468k,2,0,isi;
    468m,1,1,b7r;468n,1,1,335k;468o,1,1,3cgq;468p,1,1,iua;468q,1,1,iuj;468r,1,1,b8j;
    468s,1,1,ivu;468t,1,1,ix9;468u,1,1,ixj;468v,1,1,iyh;468w,1,1,j29;468x,1,1,bay;468y,1,1,ba4;
    468z,1,1,j2s;4690,1,1,30t0;4691,1,1,j47;4692,1,1,j7s;4693,1,1,j7w;4694,1,1,j7y;4695,1,1,j7w;
    4696,1,1,j96;4697,1,1,j9q;4698,1,1,jaq;4699,1,1,jac;469a,1,1,jan;469b,1,1,jby;469c,1,1,jci;
    469d,1,1,jcm;469e,1,1,jdc;469f,1,1,jdn;469g,1,1,jfh;469h,1,1,jht;469i,1,1,jis;469j,1,1,jm8;
    469k,1,1,31n0;469l,1,1,jlp;469m,1,1,jjw;469n,1,1,jmw;469o,1,1,jnn;469p,1,1,jqc;
    469q,1,1,31td;469r,1,1,js2;469s,1,1,jph;469t,1,1,jop;469u,1,1,bhq;469v,1,1,ju1;469w,1,1,jum;
    469x,1,1,jvh;469y,1,1,juf;469z,1,1,bjg;46a0,1,1,k0f;46a1,1,1,k18;46a2,1,1,32mi;46a3,1,1,k4j;
    46a4,1,1,kc8;46a5,1,1,k7d;46a6,1,1,bo9;46a7,1,1,k9d;46a8,1,1,bns;46a9,1,1,bms;46aa,1,1,g42;
    46ab,1,1,g45;46ac,1,1,kcg;46ad,1,1,k9o;46ae,1,1,pf1;46af,1,1,deh;46ag,1,1,kd3;46ah,1,1,kd7;
    46ai,1,1,kdd;46aj,1,1,kf2;46ak,1,1,ker;46al,1,1,33cz;46am,1,1,bpl;46an,1,1,kje;46ao,1,1,kg5;
    46ap,1,1,klu;46aq,1,1,kn9;46ar,1,1,33hp;46as,1,1,kni;46at,1,1,kkf;46au,1,1,kr8;46av,1,1,brx;
    46aw,1,1,ksi;46ax,1,1,kv7;46ay,1,1,kx6;46az,1,1,l2g;46b0,1,1,33xf;46b1,1,1,l3v;46b2,1,1,bvc;
    46b3,1,1,l5t;46b4,1,1,34br;46b5,1,1,l78;46b6,1,1,bwu;46b7,1,1,l82;46b8,1,1,l9b;46b9,2,1,la2;
    46bb,1,1,34p9;46bc,1,1,2yvf;46bd,1,1,34sa;46be,1,1,le6;46bf,1,1,354s;46bg,1,1,lhb;
    46bh,1,1,lhp;46bi,1,1,lev;46bj,1,1,ljq;46bk,1,1,lku;46bl,1,1,lmf;46bm,1,1,lkx;46bn,1,1,lm1;
    46bo,1,1,lmg;46bp,1,1,lmt;46bq,1,1,357i;46br,1,1,lkk;46bs,1,1,lrj;46bt,1,1,lta;46bu,1,1,c37;
    46bv,1,1,lvv;46bw,1,1,lvr;46bx,1,1,35jl;46by,1,1,lq1;46bz,1,1,m0e;46c0,1,1,35ni;
    46c1,1,1,35ou;46c2,1,1,m2u;46c3,1,1,m61;46c4,1,1,m5a;46c5,1,1,m57;46c6,1,1,c5y;46c7,1,1,m6i;
    46c8,1,1,m7x;46c9,1,1,m7r;46ca,1,1,m99;46cb,1,1,2u5h;46cc,1,1,mdh;46cd,1,1,368z;
    46ce,1,1,mfw;46cf,1,1,36i3;46cg,1,1,mjs;46ch,1,1,mk5;46ci,1,1,mkw;46cj,1,1,36yw;
    46ck,1,1,mm8;46cl,1,1,mmt;46cm,1,1,3779;46cn,1,1,37dg;46co,1,1,mt6;46cp,1,1,mtn;
    46cq,1,1,cdo;46cr,1,1,mud;46cs,2,0,ce0;46cu,1,1,myv;46cv,1,1,mzg;46cw,1,1,n01;46cx,1,1,n0l;
    46cy,1,1,n2i;46cz,1,1,cgr;46d0,1,1,n50;46d1,1,1,386u;46d2,1,1,n5q;46d3,1,1,389e;
    46d4,1,1,n74;46d5,1,1,2zrz;46d6,1,1,nbk;46d7,1,1,38v5;46d8,1,1,38vs;46d9,1,1,38zo;
    46da,1,1,cn0;46db,1,1,cnc;46dc,1,1,nhw;46dd,1,1,394j;46de,1,1,394i;46df,1,1,395l;
    46dg,1,1,396b;46dh,2,1,nj2;46dj,1,1,nj3;46dk,1,1,nka;46dl,1,1,cop;46dm,1,1,nm3;46dn,1,1,cp2;
    46do,1,1,cra;46dp,1,1,39r1;46dq,1,1,nri;46dr,1,1,nt8;46ds,1,1,nv0;46dt,1,1,ctf;
    46du,1,1,3a5i;46dv,1,1,nyu;46dw,1,1,3a8q;46dx,1,1,3a9x;46dy,1,1,o0f;46dz,1,1,o2z;
    46e0,1,1,cvj;46e1,1,1,o5c;46e2,1,1,o5m;46e3,1,1,o5r;46e4,1,1,3at8;46e5,2,0,3b1j;
    46e7,1,1,oa6;46e8,1,1,d1e;46e9,1,1,3b8r;46ea,1,1,og6;46eb,1,1,og9;46ec,1,1,d2f;
    46ed,1,1,3beo;46ee,1,1,onm;46ef,1,1,d5s;46eg,1,1,oo8;46eh,1,1,oo3;46ei,1,1,oow;
    46ej,1,1,3c06;46ek,1,1,orn;46el,1,1,d8h;46em,1,1,ouf;46en,1,1,ow2;46eo,1,1,oxx;46ep,1,1,d9w;
    46eq,1,1,3ciw;46er,1,1,3cjr;46es,1,1,dax;46et,1,1,3cnt;46eu,1,1,p6i;46ev,1,1,3cqm;
    46ew,1,1,p79;46ex,1,1,pa2;46ey,1,1,pad;46ez,1,1,3d22;46f0,1,1,3d43;46f1,1,1,pcw;
    46f2,1,1,3d7s;46f3,1,1,pdc;46f4,1,1,33a7;46f5,1,1,ded;46f6,1,1,pf6;46f7,1,1,phf;
    46f8,1,1,dfv;46f9,1,1,pj2;46fa,1,1,hx1;46fb,1,1,3dlz;46fc,1,1,3dmd;46fd,1,1,33bn;
    46fe,1,1,33bw;46ff,1,1,poh;46fg,1,1,pok;46fh,1,1,sda;46fi,1,1,dij;46fj,1,1,psh;46fk,1,1,psb;
    46fl,1,1,pst;46fm,1,1,gc3;46fn,1,1,ptd;46fo,1,1,ptf;46fp,1,1,ptp;46fq,1,1,puu;46fr,1,1,3ebg;
    46fs,1,1,put;46ft,1,1,pwd;46fu,1,1,pyb;46fv,1,1,q0d;46fw,1,1,pwj;46fx,1,1,q0t;46fy,1,1,q1z;
    46fz,1,1,q53;46g0,1,1,pxv;46g1,1,1,q16;46g2,1,1,q18;46g3,1,1,q1o;46g4,1,1,3eie;
    46g5,1,1,3eqz;46g6,1,1,3emt;46g7,1,1,dnv;46g8,1,1,q9d;46g9,1,1,q9f;46ga,1,1,qae;
    46gb,1,1,3g0a;46gc,1,1,qck;46gd,1,1,3f3g;46ge,1,1,dp9;46gf,1,1,dpd;46gg,1,1,3f75;
    46gh,1,1,3ff6;46gi,1,1,dpn;46gj,1,1,qj4;46gk,1,1,qjg;46gl,1,1,qjr;46gm,1,1,qjt;46gn,1,1,qll;
    46go,1,1,qko;46gp,1,1,qoe;46gq,1,1,qn6;46gr,1,1,qrd;46gs,1,1,qp4;46gt,1,1,qqz;46gu,1,1,qrq;
    46gv,1,1,dsn;46gw,1,1,qu9;46gx,1,1,qv5;46gy,1,1,dtl;46gz,1,1,qxs;46h0,1,1,qxv;46h1,1,1,3giv;
    46h2,1,1,r13;46h3,1,1,r1a;46h4,1,1,dv9;46h5,1,1,r22;46h6,1,1,aez;46h7,1,1,3gz2;
    46h8,1,1,3h46;46h9,1,1,dz2;46ha,1,1,dzb;46hb,1,1,rds;46hc,1,1,rfx;46hd,1,1,rka;46he,1,1,rpx;
    46hf,1,1,3hrc;46hg,1,1,rsb;46hh,1,1,rsx;46hi,1,1,rvf;46hj,1,1,rxz;46hk,1,1,3i9b;
    46hl,1,1,2upw;46hm,1,1,s0b;46hn,1,1,rzw;46ho,1,1,s1c;46hp,1,1,2uvy;46hq,1,1,s7o;
    46hr,1,1,sag;46hs,1,1,3jki;46ht,1,1,3jl9;46hu,1,1,sk4;46hv,1,1,smp;46hw,1,1,snl;
    46hx,1,1,3ju6;46hy,1,1,snv;46hz,1,1,svs;46i0,2,1,t07;46i2,1,1,sxo;46i3,1,1,t89;46i4,1,1,t91;
    46i5,1,1,3ksa;46i6,1,1,tjf;46i7,1,1,ej9;46i8,1,1,tkn;46i9,1,1,3l2v;46ia,1,1,eli;
    46ib,1,1,ts3;46ic,1,1,iia;46id,1,1,tur;46ie,1,1,3ltx;46if,1,1,3lzu;46ig,1,1,epa;
    46ih,1,1,epi;46ii,1,1,u00;46ij,1,1,3mdm;46ik,1,1,er6;46il,1,1,3mhi;46im,2,0,u17;
    46io,1,1,u21;46ip,1,1,3mpi;46iq,1,1,u76;46ir,1,1,eur;46is,1,1,u95;46it,1,1,ucn;46iu,1,1,ude;
    46iv,1,1,uf2;46iw,1,1,ez2;46ix,1,1,3nsg;46iy,1,1,umq;46iz,1,1,uv4;46j0,1,1,v0d;46j1,1,1,f66;
    46j2,1,1,f71;46j3,1,1,v3b;46j4,1,1,3owe;46j5,1,1,f7c;46j6,1,1,3oxx;46j7,1,1,3p5a;
    46j8,1,1,3p8x;46j9,1,1,vcr;46ja,1,1,f9y;46jb,1,1,veh;46jc,1,1,vem;46jd,1,1,vet;46je,1,1,vf3;
    46jf,1,1,vfa;46jg,1,1,vgb;46jh,1,1,3pxc;"

/-- Rows of a character and the characters that replace it. -/
def foldingTexts : String :=
  "4o,w,lk;4v,w,lg;50,w,ld;54,w,mf;58,1d,6dg,1g;59,1d,6dg,1e;5a,1f,6dg,1g;8g,2x,lj;8i,2x,2y;
    8j,2x,2y;8v,30,53;8w,30,53;95,jg,32;ck,2s,am;cl,2s,am;cm,2s,am;cn,30,2y;co,30,2y;cp,30,2y;
    cq,32,2y;cr,32,2y;cs,32,2y;dt,2s,3e;du,2s,3e;dv,2s,3e;k8,w,li;k9,w,lj;ka,w,lm;kb,w,mg;
    kc,w,lf;kd,w,ln;n8,lk,ld;oq,w,qh;p0,w,ld;p1,w,lk,ld;13b,12d,136;19x,17r,19w;19y,18o,19w;
    19z,1c7,19w;1a0,18q,19w;1ug,1sl,1to;1uh,1sm,1to;1ui,1sn,1to;1uj,1ss,1to;1uk,1sx,1to;
    1ul,1sy,1to;1um,1t7,1to;1un,1tb,1to;1y4,1wh,1x8;1y5,1wi,1x8;1y7,1wv,1x8;20j,20i,20s;
    20m,20o,20s;21l,1zq,20s;21m,1zr,20s;21n,1zw,20s;21q,20b,20s;28s,275,27w;28t,276,27w;
    2sz,2tp,2sy;2wj,2x9,2wi;2xo,2wb,2vt;2xp,2wb,2w1;30j,30i,33r;30t,30s,33r;30y,30x,33r;
    313,312,33r;318,317,33r;31l,30g,33p;31v,31t,31u;31x,31t,31w;31y,33m,328;31z,33m,31t,328;
    320,33n,328;321,33n,31t,328;329,31t,328;32r,32q,33r;331,330,33r;336,335,33r;33b,33a,33r;
    33g,33f,33r;33t,32o,33p;61m,2p,ji;680,64g,qh;681,64h,qh;682,64i,qh;683,64j,qh;684,64k,qh;
    685,64l,qh;686,64m,qh;687,64n,qh;688,64g,qh;689,64h,qh;68a,64i,qh;68b,64j,qh;68c,64k,qh;
    68d,64l,qh;68e,64m,qh;68f,64n,qh;68g,65c,qh;68h,65d,qh;68i,65e,qh;68j,65f,qh;68k,65g,qh;
    68l,65h,qh;68m,65i,qh;68n,65j,qh;68o,65c,qh;68p,65d,qh;68q,65e,qh;68r,65f,qh;68s,65g,qh;
    68t,65h,qh;68u,65i,qh;68v,65j,qh;68w,674,qh;68x,675,qh;68y,676,qh;68z,677,qh;690,678,qh;
    691,679,qh;692,67a,qh;693,67b,qh;694,674,qh;695,675,qh;696,676,qh;697,677,qh;698,678,qh;
    699,679,qh;69a,67a,qh;69b,67b,qh;69e,67k,qh;69f,q9,qh;69g,q4,qh;69j,69i,qh;69o,q9,qh;
    69p,w,lv;69r,w,lv;69s,w,n6;69t,w,lk,n6;69u,67o,qh;69v,qf,qh;69w,q6,qh;69z,69y,qh;6a4,qf,qh;
    6a5,w,lv,lc;6a6,w,lv,ld;6a7,w,lv,n6;6al,w,lw,lc;6am,w,lw,ld;6an,w,lw,n6;6b1,w,lk,lc;
    6b2,w,lk,ld;6b6,67w,qh;6b7,qx,qh;6b8,r2,qh;6bb,6ba,qh;6bg,qx,qh;6bh,w,ld;6bi,w,lw;6c7,w,mr;
    6cz,6cy,6cy;6d0,6cy,6cy,6cy;6d2,6d1,6d1;6d3,6d1,6d1,6d1;6d8,x,x;6da,w,lh;6dj,1r,1r;6dk,1r,x;
    6dl,x,1r;6dz,6cy,6cy,6cy,6cy;6g8,36,37;6io,2p,1b,2r;6ip,2p,1b,37;6ir,4w,2r;6it,2r,1b,33;
    6iu,2r,1b,39;6ix,4w,2u;6ja,32,33;6jk,37,31;6jl,38,2t,30;6jm,38,31;6kb,2u,2p,3c;
    6kw,1d,6dg,1j;6kx,1d,6dg,1l;6ky,1d,6dg,1d,1c;6kz,1d,6dg,1f;6l0,1e,6dg,1f;6l1,1d,6dg,1h;
    6l2,1e,6dg,1h;6l3,1f,6dg,1h;6l4,1g,6dg,1h;6l5,1d,6dg,1i;6l6,1h,6dg,1i;6l7,1d,6dg,1k;
    6l8,1f,6dg,1k;6l9,1h,6dg,1k;6la,1j,6dg,1k;6lb,1d,6dg;6ld,2x,2x;6le,2x,2x,2x;6lf,2x,3a;
    6lh,3a,2x;6li,3a,2x,2x;6lj,3a,2x,2x,2x;6lk,2x,3c;6lm,3c,2x;6ln,3c,2x,2x;6lt,2x,2x;
    6lu,2x,2x,2x;6lv,2x,3a;6lx,3a,2x;6ly,3a,2x,2x;6lz,3a,2x,2x,2x;6m0,2x,3c;6m2,3c,2x;
    6m3,3c,2x,2x;6mh,1c,6dg,1f;6r0,6qz,6qz;6r1,6qz,6qz,6qz;6r3,6r2,6r2;6r4,6r2,6r2,6r2;
    76x,1d,1c;76y,1d,1d;76z,1d,1e;770,1d,1f;771,1d,1g;772,1d,1h;773,1d,1i;774,1d,1j;775,1d,1k;
    776,1d,1l;777,1e,1c;778,14,1d,15;779,14,1e,15;77a,14,1f,15;77b,14,1g,15;77c,14,1h,15;
    77d,14,1i,15;77e,14,1j,15;77f,14,1k,15;77g,14,1l,15;77h,14,1d,1c,15;77i,14,1d,1d,15;
    77j,14,1d,1e,15;77k,14,1d,1f,15;77l,14,1d,1g,15;77m,14,1d,1h,15;77n,14,1d,1i,15;
    77o,14,1d,1j,15;77p,14,1d,1k,15;77q,14,1d,1l,15;77r,14,1e,1c,15;78c,14,2p,15;78d,14,2q,15;
    78e,14,2r,15;78f,14,2s,15;78g,14,2t,15;78h,14,2u,15;78i,14,2v,15;78j,14,2w,15;78k,14,2x,15;
    78l,14,2y,15;78m,14,2z,15;78n,14,30,15;78o,14,31,15;78p,14,32,15;78q,14,33,15;78r,14,34,15;
    78s,14,35,15;78t,14,36,15;78u,14,37,15;78v,14,38,15;78w,14,39,15;78x,14,3a,15;78y,14,3b,15;
    78z,14,3c,15;790,14,3d,15;791,14,3e,15;8b0,6qz,6qz,6qz,6qz;8dw,1m,1m,1p;8dx,1p,1p;
    8dy,1p,1p,1p;8gs,8gt,mw;9ln,w,9ll;9lo,w,9lm;9lr,9l4,9l6;9of,9mb,9mw;9vk,14,3cw,15;
    9vl,14,3cy,15;9vm,14,3cz,15;9vn,14,3d1,15;9vo,14,3d2,15;9vp,14,3d3,15;9vq,14,3d5,15;
    9vr,14,3d7,15;9vs,14,3d8,15;9vt,14,3da,15;9vu,14,3db,15;9vv,14,3dc,15;9vw,14,3dd,15;
    9vx,14,3de,15;9vy,14,xz4,15;9vz,14,yvs,15;9w0,14,zc4,15;9w1,14,108s,15;9w2,14,10p4,15;
    9w3,14,115g,15;9w4,14,1224,15;9w5,14,12ys,15;9w6,14,13f4,15;9w7,14,14bs,15;9w8,14,14s4,15;
    9w9,14,158g,15;9wa,14,15os,15;9wb,14,1654,15;9wc,14,13p8,15;9wd,14,1350,13ic,15;
    9we,14,1350,16f8,15;9wg,14,feo,15;9wh,14,fik,15;9wi,14,fex,15;9wj,14,h5n,15;9wk,14,fis,15;
    9wl,14,g31,15;9wm,14,fer,15;9wn,14,g2z,15;9wo,14,fh9,15;9wp,14,gg1,15;9wq,14,kco,15;
    9wr,14,m7f,15;9ws,14,ldg,15;9wt,14,kdk,15;9wu,14,ssx,15;9wv,14,h7j,15;9ww,14,k4l,15;
    9wx,14,kkq,15;9wy,14,kcp,15;9wz,14,ny6,15;9x0,14,glp,15;9x1,14,mm1,15;9x2,14,rs1,15;
    9x3,14,nz1,15;9x4,14,gc4,15;9x5,14,fkz,15;9x6,14,gos,15;9x7,14,i1y,15;9x8,14,nhf,15;
    9x9,14,flt,15;9xa,14,rt3,15;9xb,14,ggk,15;9xc,14,nzh,15;9xd,14,fm9,15;9xe,14,pnu,15;
    9xf,14,po3,15;9xs,34,38,2t;9xt,1e,1d;9xu,1e,1e;9xv,1e,1f;9xw,1e,1g;9xx,1e,1h;9xy,1e,1i;
    9xz,1e,1j;9y0,1e,1k;9y1,1e,1l;9y2,1f,1c;9y3,1f,1d;9y4,1f,1e;9y5,1f,1f;9y6,1f,1g;9y7,1f,1h;
    9z0,14c8,y5c;9z1,13p8,13dk;a0h,1f,1i;a0i,1f,1j;a0j,1f,1k;a0k,1f,1l;a0l,1g,1c;a0m,1g,1d;
    a0n,1g,1e;a0o,1g,1f;a0p,1g,1g;a0q,1g,1h;a0r,1g,1i;a0s,1g,1j;a0t,1g,1k;a0u,1g,1l;a0v,1h,1c;
    a0w,1d,kco;a0x,1e,kco;a0y,1f,kco;a0z,1g,kco;a10,1h,kco;a11,1i,kco;a12,1j,kco;a13,1k,kco;
    a14,1l,kco;a15,1d,1c,kco;a16,1d,1d,kco;a17,1d,1e,kco;a18,2w,2v;a19,2t,36,2v;a1a,2t,3a;
    a1b,30,38,2s;a2n,fl0,gp8;a2o,9lu,9n5,9oc,9mw;a2p,9lu,9nv,9n9,9lt;a2q,9lu,9o3,9ne,9lu;
    a2r,9lu,9oc,9nv;a2s,9lw,9mz,9o3,9m8;a2t,9lw,9o3,9mp;a2u,9ly,9m1,9o3;a2v,9m0,9mh,9m7,9oc,9mx;
    a2w,9m0,9oc,9m3,9oc;a2x,9m2,9o3,9mh;a2y,9m2,9oc,9nk;a2z,9m3,9lw,9nu;a30,9m3,9nt,9mr,9mw;
    a31,9m3,9nx,9nu,9oc;a32,9m4,9nx,9o3;a33,9m4,9o3,9ni;a34,9m6,9m4;a35,9m6,9mz,9oc;
    a36,9m5,9np,9nu,9oc;a37,9m6,9nv,9mo,9oc;a38,9m5,9nx;a39,9m5,9nx,9m8,9nt,9nk;
    a3a,9m5,9nx,9nl,9oc,9mw,9nv;a3b,9m5,9nx,9nz,9mr,9mw;a3c,9m8,9nt,9nk;a3d,9m8,9nt,9nk,9mw,9o3;
    a3e,9m7,9nv,9mk,9lw,9nx;a3f,9m7,9nx,9oc,9n1;a3g,9m9,9oc,9mh;a3h,9mb,9nv,9my;a3i,9mb,9oc,9nh;
    a3j,9md,9lw,9m7,9nv;a3k,9md,9o3,9mp,9oc,9nk;a3l,9mf,9nu,9o3,9m8;a3m,9mj,9o3,9mp;
    a3n,9mj,9o3,9mw;a3o,9mo,9oc,9mh;a3p,9mv,9mf;a3q,9mx,9nv;a3r,9mw,9o3;a3s,9my,9n2;
    a3t,9n2,9mr,9mw;a3u,9n3,9lw,9ms;a3v,9n5,9oc,9mj,9o3,9mw;a3w,9n5,9oc,9ms;a3x,9n4,9oc,9nw,9nv;
    a3y,9n8,9lu,9mh,9mw,9nv;a3z,9n8,9m7,9nv;a40,9n8,9mb;a41,9n7,9nv;a42,9n9,9lt,9nt,9mr,9mx;
    a43,9n9,9lv,9oc,9mw;a44,9na,9mr,9mf,9lz,9nv;a45,9n9,9nt,9o3;a46,9nc,9m7,9mn,9oc,9nv;
    a47,9ne,9ml;a48,9ne,9mz,9n6;a49,9nc,9nv,9ms;a4a,9ne,9o3,9mh;a4b,9ne,9oc,9mg;a4c,9nd,9oc,9mn;
    a4d,9nh,9lw,9o3,9mw;a4e,9ng,9nv,9mw;a4f,9nf,9o3;a4g,9nh,9o3,9mx;a4h,9nf,9oc,9nv;
    a4i,9nf,9oc,9o3;a4j,9ni,9lw,9m7,9nx;a4k,9ni,9lw,9nv;a4l,9ni,9mr,9n3;a4m,9ni,9nv,9m7;
    a4n,9ni,9o3,9mf,9nr,9o3;a4o,9nj,9m7,9nx,9o3;a4p,9nj,9nu;a4q,9nj,9nu,9n4,9oc,9nv;a4r,9nl,9m4;
    a4s,9nl,9m4,9mw,9o3;a4t,9nl,9oc,9mw,9nv;a4u,9no,9oc,9mx;a4v,9no,9oc,9nv;a4w,9nq,9lu,9o3;
    a4x,9nu,9mr,9mw,9nv;a4y,9nu,9nt;a4z,9nv,9n8,9oc;a50,9nv,9oc,9na,9nv;a51,9nw,9nk;
    a52,9nw,9o3,9mw,9ma,9o3;a53,9nz,9mr,9mw;a54,1c,m9l;a55,1d,m9l;a56,1e,m9l;a57,1f,m9l;
    a58,1g,m9l;a59,1h,m9l;a5a,1i,m9l;a5b,1j,m9l;a5c,1k,m9l;a5d,1l,m9l;a5e,1d,1c,m9l;
    a5f,1d,1d,m9l;a5g,1d,1e,m9l;a5h,1d,1f,m9l;a5i,1d,1g,m9l;a5j,1d,1h,m9l;a5k,1d,1i,m9l;
    a5l,1d,1j,m9l;a5m,1d,1k,m9l;a5n,1d,1l,m9l;a5o,1e,1c,m9l;a5p,1e,1d,m9l;a5q,1e,1e,m9l;
    a5r,1e,1f,m9l;a5s,1e,1g,m9l;a5t,2w,34,2p;a5u,2s,2p;a5v,2p,39;a5w,2q,2p,36;a5x,33,3a;
    a5y,34,2r;a5z,2s,31;a60,2s,31,1e;a61,2s,31,1f;a62,2x,39;a63,inn,jdc;a64,k6l,gp8;a65,hlz,l7n;
    a66,k5q,lh7;a67,kkq,irz,fmi,ny6;a68,34,2p;a69,32,2p;a6a,qk,2p;a6b,31,2p;a6c,2z,2p;a6d,2z,2q;
    a6e,31,2q;a6f,2v,2q;a6g,2r,2p,30;a6h,2z,2r,2p,30;a6i,34,2u;a6j,32,2u;a6k,qk,2u;a6l,qk,2v;
    a6m,31,2v;a6n,2z,2v;a6o,2w,3e;a6p,2z,2w,3e;a6q,31,2w,3e;a6r,2v,2w,3e;a6s,38,2w,3e;a6t,qk,30;
    a6u,31,30;a6v,2s,30;a6w,2z,30;a6x,2u,31;a6y,32,31;a6z,qk,31;a70,31,31;a71,2r,31;a72,2z,31;
    a73,31,31,1e;a74,2r,31,1e;a75,31,1e;a76,2z,31,1e;a77,31,31,1f;a78,2r,31,1f;a79,31,1f;
    a7a,2z,31,1f;a7b,31,6qd,37;a7c,31,6qd,37,1e;a7d,34,2p;a7e,2z,34,2p;a7f,31,34,2p;
    a7g,2v,34,2p;a7h,36,2p,2s;a7i,36,2p,2s,6qd,37;a7j,36,2p,2s,6qd,37,1e;a7k,34,37;a7l,32,37;
    a7m,qk,37;a7n,31,37;a7o,34,3a;a7p,32,3a;a7q,qk,3a;a7r,31,3a;a7s,2z,3a;a7t,31,3a;a7u,34,3b;
    a7v,32,3b;a7w,qk,3b;a7x,31,3b;a7y,2z,3b;a7z,31,3b;a80,2z,qx;a81,31,qx;a83,2q,35;a84,2r,2r;
    a85,2r,2s;a86,2r,6qd,2z,2v;a88,2s,2q;a89,2v,3d;a8a,2w,2p;a8b,2w,34;a8c,2x,32;a8d,2z,2z;
    a8e,2z,31;a8f,2z,38;a8g,30,31;a8h,30,32;a8i,30,33,2v;a8j,30,3c;a8k,31,2q;a8l,31,2x,30;
    a8m,31,33,30;a8n,34,2w;a8p,34,34,31;a8q,34,36;a8r,37,36;a8s,37,3a;a8t,3b,2q;a8u,3a,6qd,31;
    a8v,2p,6qd,31;a8w,1d,k4l;a8x,1e,k4l;a8y,1f,k4l;a8z,1g,k4l;a90,1h,k4l;a91,1i,k4l;a92,1j,k4l;
    a93,1k,k4l;a94,1l,k4l;a95,1d,1c,k4l;a96,1d,1d,k4l;a97,1d,1e,k4l;a98,1d,1f,k4l;a99,1d,1g,k4l;
    a9a,1d,1h,k4l;a9b,1d,1i,k4l;a9c,1d,1j,k4l;a9d,1d,1k,k4l;a9e,1d,1l,k4l;a9f,1e,1c,k4l;
    a9g,1e,1d,k4l;a9h,1e,1e,k4l;a9i,1e,1f,k4l;a9j,1e,1g,k4l;a9k,1e,1h,k4l;a9l,1e,1i,k4l;
    a9m,1e,1j,k4l;a9n,1e,1k,k4l;a9o,1e,1l,k4l;a9p,1f,1c,k4l;a9q,1f,1d,k4l;a9r,2v,2p,30;
    1dkw,2u,2u;1dkx,2u,2x;1dky,2u,30;1dkz,2u,2u,2x;1dl0,2u,2u,30;1dl1,37,38;1dl2,37,38;
    1dlf,12s,12u;1dlg,12s,12d;1dlh,12s,12j;1dli,132,12u;1dlj,12s,12l;1dlp,15l,14k;1dlr,16a,14n;
    1dm2,161,14x;1dm3,161,14y;1dm4,161,14s,14x;1dm5,161,14s,14y;1dm6,15c,14n;1dm7,15c,14o;
    1dm8,15c,14s;1dm9,15d,14s;1dma,15e,14s;1dmb,15f,14s;1dmc,15g,14s;1dmd,15h,14s;1dme,15i,14s;
    1dmg,15k,14s;1dmh,15l,14s;1dmi,15m,14s;1dmj,15n,14s;1dmk,15o,14s;1dmm,15q,14s;1dmo,15s,14s;
    1dmp,15t,14s;1dmr,15v,14s;1dms,15w,14s;1dmu,15y,14s;1dmv,15z,14s;1dmw,160,14s;1dmx,161,14s;
    1dmy,162,14s;1dmz,15h,14p;1dn0,15d,14v;1dn1,15n,14v;1dn2,15w,14v;1dn3,15c,15o;1dr1,1c7,19w;
    1dre,17q,17r;1drf,17q,17r;1drg,17q,1cl;1drh,17q,1cl;1dri,17q,18o;1drj,17q,18o;1drk,17q,1c7;
    1drl,17q,1c7;1drm,17q,1c6;1drn,17q,1c6;1dro,17q,1c8;1drp,17q,1c8;1drq,17q,1cg;1drr,17q,1cg;
    1drs,17q,1cg;1drt,17q,18p;1dru,17q,18p;1drv,17q,18p;1ds0,17q,17w;1ds1,17q,17x;1ds2,17q,18l;
    1ds3,17q,18p;1ds4,17q,18q;1ds5,17s,17w;1ds6,17s,17x;1ds7,17s,17y;1ds8,17s,18l;1ds9,17s,18p;
    1dsa,17s,18q;1dsb,17u,17w;1dsc,17u,17x;1dsd,17u,17y;1dse,17u,18l;1dsf,17u,18p;1dsg,17u,18q;
    1dsh,17v,17w;1dsi,17v,18l;1dsj,17v,18p;1dsk,17v,18q;1dsl,17w,17x;1dsm,17w,18l;1dsn,17x,17w;
    1dso,17x,18l;1dsp,17y,17w;1dsq,17y,17x;1dsr,17y,18l;1dss,183,17w;1dst,183,17x;1dsu,183,17y;
    1dsv,183,18l;1dsw,185,17x;1dsx,185,18l;1dsy,186,17w;1dsz,186,17x;1dt0,186,17y;1dt1,186,18l;
    1dt2,187,17x;1dt3,187,18l;1dt4,188,18l;1dt5,189,17w;1dt6,189,18l;1dt7,18a,17w;1dt8,18a,18l;
    1dt9,18h,17w;1dta,18h,17x;1dtb,18h,17y;1dtc,18h,18l;1dtd,18h,18p;1dte,18h,18q;1dtf,18i,17x;
    1dtg,18i,18l;1dth,18i,18p;1dti,18i,18q;1dtj,18j,17r;1dtk,18j,17w;1dtl,18j,17x;1dtm,18j,17y;
    1dtn,18j,18k;1dto,18j,18l;1dtp,18j,18p;1dtq,18j,18q;1dtr,18k,17w;1dts,18k,17x;1dtt,18k,17y;
    1dtu,18k,18l;1dtv,18k,18p;1dtw,18k,18q;1dtx,18l,17w;1dty,18l,17x;1dtz,18l,17y;1du0,18l,18l;
    1du1,18l,18p;1du2,18l,18q;1du3,18m,17w;1du4,18m,17x;1du5,18m,17y;1du6,18m,18l;1du7,18m,18p;
    1du8,18m,18q;1du9,18n,17w;1dua,18n,18l;1dub,18n,18p;1duc,18n,18q;1dud,18q,17w;1due,18q,17x;
    1duf,18q,17y;1dug,18q,18l;1duh,18q,18p;1dui,18q,18q;1duj,180,19s;1duk,181,19s;1dul,18p,19s;
    1dum,w,18s,18x;1dun,w,18t,18x;1duo,w,18u,18x;1dup,w,18v,18x;1duq,w,18w,18x;1dur,w,18x,19s;
    1dus,17q,181;1dut,17q,182;1duu,17q,18l;1duv,17q,18m;1duw,17q,18p;1dux,17q,18q;1duy,17s,181;
    1duz,17s,182;1dv0,17s,18l;1dv1,17s,18m;1dv2,17s,18p;1dv3,17s,18q;1dv4,17u,181;1dv5,17u,182;
    1dv6,17u,18l;1dv7,17u,18m;1dv8,17u,18p;1dv9,17u,18q;1dva,17v,181;1dvb,17v,182;1dvc,17v,18l;
    1dvd,17v,18m;1dve,17v,18p;1dvf,17v,18q;1dvg,18h,18p;1dvh,18h,18q;1dvi,18i,18p;1dvj,18i,18q;
    1dvk,18j,17r;1dvl,18j,18k;1dvm,18j,18l;1dvn,18j,18p;1dvo,18j,18q;1dvp,18k,18l;1dvq,18k,18p;
    1dvr,18k,18q;1dvs,18l,17r;1dvt,18l,18l;1dvu,18m,181;1dvv,18m,182;1dvw,18m,18l;1dvx,18m,18m;
    1dvy,18m,18p;1dvz,18m,18q;1dw0,18p,19s;1dw1,18q,181;1dw2,18q,182;1dw3,18q,18l;1dw4,18q,18m;
    1dw5,18q,18p;1dw6,18q,18q;1dw7,17q,17w;1dw8,17q,17x;1dw9,17q,17y;1dwa,17q,18l;1dwb,17q,18n;
    1dwc,17s,17w;1dwd,17s,17x;1dwe,17s,17y;1dwf,17s,18l;1dwg,17s,18n;1dwh,17u,17w;1dwi,17u,17x;
    1dwj,17u,17y;1dwk,17u,18l;1dwl,17u,18n;1dwm,17v,18l;1dwn,17w,17x;1dwo,17w,18l;1dwp,17x,17w;
    1dwq,17x,18l;1dwr,17y,17w;1dws,17y,18l;1dwt,183,17w;1dwu,183,17x;1dwv,183,17y;1dww,183,18l;
    1dwx,185,17x;1dwy,185,17y;1dwz,185,18l;1dx0,186,17w;1dx1,186,17x;1dx2,186,17y;1dx3,186,18l;
    1dx4,187,17x;1dx5,188,18l;1dx6,189,17w;1dx7,189,18l;1dx8,18a,17w;1dx9,18a,18l;1dxa,18h,17w;
    1dxb,18h,17x;1dxc,18h,17y;1dxd,18h,18l;1dxe,18i,17x;1dxf,18i,18l;1dxg,18j,17w;1dxh,18j,17x;
    1dxi,18j,17y;1dxj,18j,18k;1dxk,18j,18l;1dxl,18k,17w;1dxm,18k,17x;1dxn,18k,17y;1dxo,18k,18l;
    1dxp,18k,18n;1dxq,18l,17w;1dxr,18l,17x;1dxs,18l,17y;1dxt,18l,18l;1dxu,18m,17w;1dxv,18m,17x;
    1dxw,18m,17y;1dxx,18m,18l;1dxy,18m,18n;1dxz,18n,17w;1dy0,18n,18l;1dy1,18n,19s;1dy2,18q,17w;
    1dy3,18q,17x;1dy4,18q,17y;1dy5,18q,18l;1dy6,18q,18n;1dy7,17q,18l;1dy8,17q,18n;1dy9,17s,18l;
    1dya,17s,18n;1dyb,17u,18l;1dyc,17u,18n;1dyd,17v,18l;1dye,17v,18n;1dyf,183,18l;1dyg,183,18n;
    1dyh,184,18l;1dyi,184,18n;1dyj,18j,18k;1dyk,18j,18l;1dyl,18k,18l;1dym,18m,18l;1dyn,18m,18n;
    1dyo,18q,18l;1dyp,18q,18n;1dyq,18g,18u,18x;1dyr,18g,18v,18x;1dys,18g,18w,18x;1dyt,187,18p;
    1dyu,187,18q;1dyv,189,18p;1dyw,189,18q;1dyx,18a,18p;1dyy,18a,18q;1dyz,183,18p;1dz0,183,18q;
    1dz1,184,18p;1dz2,184,18q;1dz3,17x,18p;1dz4,17x,18q;1dz5,17w,18p;1dz6,17w,18q;1dz7,17y,18p;
    1dz8,17y,18q;1dz9,185,18p;1dza,185,18q;1dzb,186,18p;1dzc,186,18q;1dzd,184,17w;1dze,184,17x;
    1dzf,184,17y;1dzg,184,18l;1dzh,184,181;1dzi,183,181;1dzj,185,181;1dzk,186,181;1dzl,187,18p;
    1dzm,187,18q;1dzn,189,18p;1dzo,189,18q;1dzp,18a,18p;1dzq,18a,18q;1dzr,183,18p;1dzs,183,18q;
    1dzt,184,18p;1dzu,184,18q;1dzv,17x,18p;1dzw,17x,18q;1dzx,17w,18p;1dzy,17w,18q;1dzz,17y,18p;
    1e00,17y,18q;1e01,185,18p;1e02,185,18q;1e03,186,18p;1e04,186,18q;1e05,184,17w;1e06,184,17x;
    1e07,184,17y;1e08,184,18l;1e09,184,181;1e0a,183,181;1e0b,185,181;1e0c,186,181;1e0d,184,17w;
    1e0e,184,17x;1e0f,184,17y;1e0g,184,18l;1e0h,183,18n;1e0i,184,18n;1e0j,187,18l;1e0k,183,17w;
    1e0l,183,17x;1e0m,183,17y;1e0n,184,17w;1e0o,184,17x;1e0p,184,17y;1e0q,187,18l;1e0r,188,18l;
    1e0s,17r,18r;1e0t,17r,18r;1e1c,17u,17w,18l;1e1d,17u,17x,17w;1e1e,17u,17x,17w;
    1e1f,17u,17x,18l;1e1g,17u,17y,18l;1e1h,17u,18l,17w;1e1i,17u,18l,17x;1e1j,17u,18l,17y;
    1e1k,17w,18l,17x;1e1l,17w,18l,17x;1e1m,17x,18l,18q;1e1n,17x,18l,18p;1e1o,183,17x,17w;
    1e1p,183,17w,17x;1e1q,183,17w,18p;1e1r,183,18l,17x;1e1s,183,18l,17x;1e1t,183,18l,17w;
    1e1u,183,18l,18l;1e1v,183,18l,18l;1e1w,185,17x,17x;1e1x,185,17x,17x;1e1y,185,18l,18l;
    1e1z,184,17x,18l;1e20,184,17x,18l;1e21,184,17w,18q;1e22,184,18l,17y;1e23,184,18l,17y;
    1e24,184,18l,18l;1e25,184,18l,18l;1e26,186,17x,18p;1e27,186,17y,18l;1e28,186,17y,18l;
    1e29,187,18l,17x;1e2a,187,18l,17x;1e2b,187,18l,18l;1e2c,187,18l,18q;1e2d,189,17w,18l;
    1e2e,189,18l,18l;1e2f,189,18l,18l;1e2g,189,18l,18p;1e2h,18a,18l,18l;1e2i,18a,18l,18q;
    1e2j,18a,18l,18p;1e2k,18h,17y,18l;1e2l,18h,17y,18l;1e2m,18i,18l,17x;1e2n,18i,18l,18l;
    1e2o,18k,17x,18l;1e2p,18k,17x,18q;1e2q,18k,17x,18p;1e2r,18k,17w,17w;1e2s,18k,17w,17w;
    1e2t,18k,17y,18l;1e2u,18k,17y,18l;1e2v,18k,18l,17x;1e2w,18k,18l,17x;1e2x,18l,17x,17w;
    1e2y,18l,17x,18l;1e2z,18l,17x,18q;1e30,18l,17w,17x;1e31,18l,17w,18l;1e32,18l,17y,17w;
    1e33,18l,17y,18l;1e36,18l,17w,17y;1e37,18n,18l,17w;1e38,18n,18l,18l;1e39,18m,17x,18l;
    1e3a,18m,17x,18p;1e3b,18m,17w,18l;1e3c,18m,17w,18l;1e3d,18m,17w,18p;1e3e,18m,18l,18q;
    1e3f,18m,18l,18p;1e3g,18q,18l,18l;1e3h,18q,18l,18l;1e3i,17s,17y,18q;1e3j,17u,17w,18q;
    1e3k,17u,17w,18p;1e3l,17u,17y,18q;1e3m,17u,17y,18p;1e3n,17u,18l,18q;1e3o,17u,18l,18p;
    1e3p,17w,18l,18q;1e3q,17w,17x,18p;1e3r,17w,18l,18p;1e3s,183,17y,18p;1e3t,185,17x,18q;
    1e3u,184,17x,18q;1e3v,186,17x,18q;1e3w,18k,17w,18q;1e3x,18k,18l,18q;1e3y,18q,17x,18q;
    1e3z,18q,17w,18q;1e40,18q,18l,18q;1e41,18l,18l,18q;1e42,18i,18l,18q;1e43,18m,17x,18q;
    1e44,18i,18l,17x;1e45,18k,17x,18l;1e46,189,18l,18q;1e47,18j,18l,18q;1e48,18m,17w,17x;
    1e49,18l,17y,18q;1e4a,18k,17w,18l;1e4b,18j,18l,18l;1e4c,18k,17w,18l;1e4d,18m,17w,17x;
    1e4e,17w,17x,18q;1e4f,17x,17w,18q;1e4g,18l,17w,18q;1e4h,18h,18l,18q;1e4i,17s,17x,18q;
    1e4j,18j,18l,18l;1e4k,189,17w,18l;1e4l,185,18l,18l;1e4m,183,17y,18q;1e4n,18m,17w,18q;
    1e5s,185,18k,1ci;1e5t,18i,18k,1ci;1e5u,17r,18k,18k,18n;1e5v,17r,18j,17s,181;
    1e5w,18l,17x,18l,17z;1e5x,185,18k,189,18l;1e5y,181,183,18o,18k;1e5z,189,18k,18q,18n;
    1e60,18o,183,18k,18l;1e61,185,18k,18p;
    1e62,185,18k,18p,w,17r,18k,18k,18n,w,189,18k,18q,18n,w,18o,183,18k,18l;
    1e63,17w,18k,w,17w,18k,17r,18k,18n;1e64,181,1cc,17r,18k;1e89,w,lh;1e8a,w,lh;1e8b,w,lh;
    1e8c,w,lh;1e9c,w,18r;1e9d,18g,18r;1e9e,w,18s;1e9g,w,18t;1e9i,w,18u;1e9j,18g,18u;1e9k,w,18v;
    1e9l,18g,18v;1e9m,w,18w;1e9n,18g,18w;1e9o,w,18x;1e9p,18g,18x;1e9q,w,18y;1e9r,18g,18y;
    1ed1,18k,17m;1ed2,18k,17m;1ed3,18k,17n;1ed4,18k,17n;1ed5,18k,17p;1ed6,18k,17p;1ed7,18k,17r;
    1ed8,18k,17r;1ejn,w,lg;2jxa,2jx3,2jxh;2jxb,2jx4,2jxh;2jxc,2jx4,2jxh,2jxq;
    2jxd,2jx4,2jxh,2jxr;2jxe,2jx4,2jxh,2jxs;2jxf,2jx4,2jxh,2jxt;2jxg,2jx4,2jxh,2jxu;
    2jzv,2jzt,2jxh;2jzw,2jzu,2jxh;2jzx,2jzt,2jxh,2jxq;2jzy,2jzu,2jxh,2jxq;2jzz,2jzt,2jxh,2jxr;
    2k00,2jzu,2jxh,2jxr;2q69,1c,18;2q6a,1d,18;2q6b,1e,18;2q6c,1f,18;2q6d,1g,18;2q6e,1h,18;
    2q6f,1i,18;2q6g,1j,18;2q6h,1k,18;2q6i,1l,18;2q6o,14,2p,15;2q6p,14,2q,15;2q6q,14,2r,15;
    2q6r,14,2s,15;2q6s,14,2t,15;2q6t,14,2u,15;2q6u,14,2v,15;2q6v,14,2w,15;2q6w,14,2x,15;
    2q6x,14,2y,15;2q6y,14,2z,15;2q6z,14,30,15;2q70,14,31,15;2q71,14,32,15;2q72,14,33,15;
    2q73,14,34,15;2q74,14,35,15;2q75,14,36,15;2q76,14,37,15;2q77,14,38,15;2q78,14,39,15;
    2q79,14,3a,15;2q7a,14,3b,15;2q7b,14,3c,15;2q7c,14,3d,15;2q7d,14,3e,15;2q7e,9hw,37,9hx;
    2q7h,2r,2s;2q7i,3b,3e;2q8a,2w,3a;2q8b,31,3a;2q8c,37,2s;2q8d,37,37;2q8e,34,34,3a;2q8f,3b,2r;
    2q96,31,2r;2q97,31,2s;2q98,31,36;2qa8,2s,2y;2qdc,9kr,9jf;2qdd,9mb,9mb;2qf4,9hw,kdo,9hx;
    2qf5,9hw,fex,9hx;2qf6,9hw,fik,9hx;2qf7,9hw,i2x,9hx;2qf8,9hw,m9l,9hx;2qf9,9hw,jf7,9hx;
    2qfa,9hw,nh3,9hx;2qfb,9hw,gd9,9hx;2qfc,9hw,k0n,9hx;"

/-- Ranges of characters that stand for nothing. -/
def foldingIgnored : String :=
  "4t,4t;nj,nj;3fj,3fk;4ok,4ol;4qz,4r3;6bv,6bv;6e8,6ec;6ei,6en;9r8,9r8;1e68,1e6n;1edb,1edb;
    1ehs,1ehs;2fts,2ftv;2jxv,2jy2;jo5c,jobz;"

/-- Ranges of characters that no host name may hold. -/
def foldingRefused : String :=
  "3k,4f;oo,op;ow,oz;p7,p7;p9,p9;pu,pu;10w,10w;11z,120;13f,13g;13k,13k;154,15b;163,166;16d,16t;
    17g,17g;1ct,1ct;1e6,1e7;1fv,1fw;1iq,1j3;1kr,1ks;1m6,1m7;1mn,1mn;1ng,1nh;1nj,1nj;1nv,1nz;
    1ow,1p2;1r6,1r6;1vo,1vo;1vx,1vy;1w1,1w2;1wp,1wp;1wx,1wx;1wz,1x1;1x6,1x7;1xh,1xi;1xl,1xm;
    1xr,1xy;1y0,1y3;1y6,1y6;1yc,1yd;1z3,1z4;1z8,1z8;1zf,1zi;1zl,1zm;209,209;20h,20h;20k,20k;
    20n,20n;20q,20r;20t,20t;20z,212;215,216;21a,21c;21e,21k;21p,21p;21r,21x;22f,22o;22s,22s;
    232,232;236,236;23t,23t;241,241;244,244;24a,24b;24m,24m;24q,24q;24u,24v;24x,25b;25g,25h;
    25u,260;268,268;26c,26c;26l,26m;26p,26q;27d,27d;27l,27l;27o,27o;27u,27v;285,286;289,28a;
    28e,28k;28o,28r;28u,28u;290,291;29k,29t;29w,29w;2a3,2a5;2a9,2a9;2ae,2ag;2aj,2aj;2al,2al;
    2ao,2aq;2at,2av;2az,2b1;2be,2bh;2bn,2bp;2bt,2bt;2by,2bz;2c1,2c6;2c8,2cl;2d7,2db;2dp,2dp;
    2dt,2dt;2eh,2eh;2ey,2ez;2f9,2f9;2fd,2fd;2fi,2fo;2fr,2fr;2fv,2fv;2fy,2fz;2g4,2g5;2gg,2gm;
    2h9,2h9;2hd,2hd;2i1,2i1;2ic,2ic;2ii,2ij;2it,2it;2ix,2ix;2j2,2j8;2jb,2jf;2jj,2jj;2jo,2jp;
    2k0,2k0;2k4,2kf;2kt,2kt;2kx,2kx;2md,2md;2mh,2mh;2mo,2mr;2n8,2n9;2o0,2o0;2o4,2o4;2on,2op;
    2pe,2pe;2po,2po;2pq,2pr;2pz,2q1;2q3,2q6;2qd,2qd;2qf,2qf;2qo,2qt;2r4,2r5;2r9,2rk;2t7,2ta;
    2u4,2v4;2v7,2v7;2v9,2v9;2vf,2vf;2w4,2w4;2w6,2w6;2wu,2wv;2x1,2x1;2x3,2x3;2xb,2xb;2xm,2xn;
    2xs,2yn;30o,30o;31p,31s;32w,32w;33x,33x;34d,34d;34r,35r;3ba,3ba;3bc,3bg;3bi,3bj;3m1,3m1;
    3m6,3m7;3mf,3mf;3mh,3mh;3mm,3mn;3nt,3nt;3ny,3nz;3ox,3ox;3p2,3p3;3pb,3pb;3pd,3pd;3pi,3pj;
    3pz,3pz;3rl,3rl;3rq,3rr;3tn,3to;3ul,3un;3ve,3vj;3xy,3xz;3y6,3y7;4g0,4g0;4gt,4gv;4jd,4jj;
    4k6,4ke;4l3,4lb;4lw,4m7;4ml,4ml;4mp,4mp;4ms,4n3;4pq,4pr;4q2,4q7;4qi,4qn;4re,4rj;4u1,4u7;
    4vf,4vj;4xi,4xr;4yn,4yn;4z0,4z3;4zg,4zj;4zl,4zn;50u,50v;511,51b;52k,52n;53e,53j;53v,53x;
    55o,55p;57j,57j;58d,58e;58q,58v;596,59b;59q,59r;5b2,5b3;5bg,5bz;5e5,5e5;5is,5iz;5ko,5kq;
    5l6,5l8;5mz,5n3;5ob,5oc;5oo,5ov;5q3,5q7;652,653;65a,65b;66e,66f;66m,66n;66w,66w;66y,66y;
    670,670;672,672;67y,67z;69h,69h;69x,69x;6ac,6ad;6ak,6ak;6b4,6b5;6b9,6b9;6bj,6bj;6by,6bz;
    6ck,6cm;6co,6cu;6ed,6eh;6eq,6er;6fj,6fj;6fx,6fz;6gy,6hb;6i9,6in;6mk,6mn;756,75r;763,76n;
    77s,78b;8l0,8l1;8vo,8vs;8x2,8x2;8x4,8x8;8xa,8xb;8yw,8z2;8z5,8zi;907,90f;90n,90n;90v,90v;
    913,913;91b,91b;91j,91j;91r,91r;91z,91z;927,927;95q,96n;97e,97e;99w,9a7;9g6,9hb;9j4,9j4;
    9lj,9lk;9og,9ok;9ps,9ps;9sf,9sf;9uu,9v3;9wf,9wf;a82,a82;a87,a87;a8o,a8o;wi5,wi7;wjr,wjz;
    wto,wu7;wzc,wzj;x5p,x68;x7x,x7z;x8a,x8f;xa0,xa7;xc6,xcd;xcq,xcv;xg4,xge;xh9,xhb;xji,xji;
    xju,xjx;xkv,xkv;xmf,xmn;xn2,xn3;xne,xnf;xqb,xqy;xrr,xs0;xs7,xs8;xsf,xsg;xsn,xsv;xt3,xt3;
    xtb,xtb;xv0,xv3;xym,xyn;xyy,xz3;16lg,16lr;16mf,16mi;16nw,1d6n;1dgu,1dgv;1dju,1dkv;1dl3,1dle;
    1dlk,1dlo;1dmf,1dmf;1dml,1dml;1dmn,1dmn;1dmq,1dmq;1dmt,1dmt;1e4w,1e5r;1e6q,1e6q;1e6x,1e73;
    1e7k,1e7k;1e8i,1e8j;1e93,1e93;1e98,1e9b;1e9h,1e9h;1ed9,1eda;1edc,1edc;1ein,1eip;1eiw,1eix;
    1ej4,1ej5;1ejc,1ejd;1ejh,1ejj;1ejr,1ejr;1ejz,1ekf;1eks,1eks;1elj,1elj;1em3,1em3;1em6,1em6;
    1emm,1emn;1en2,1enz;1erf,1erj;1ern,1erq;1et0,1et2;1evj,1evj;1evx,1evz;1ew1,1exb;1eym,1f27;
    1f31,1f33;1f4h,1f4v;1f5o,1f5r;1f6s,1f70;1f7v,1f7z;1f97,1f9b;1fa6,1fa6;1fb8,1fbb;1fbq,1fcv;
    1fha,1fhb;1fhm,1fhr;1fis,1fiv;1fjw,1fjz;1fl4,1flb;1fms,1fn2;1fnf,1fnf;1fnv,1fnv;1fo3,1fo3;
    1fo6,1fo6;1foi,1foi;1foy,1foy;1fp6,1fp6;1fp9,1fpb;1fqs,1fr3;1fzr,1fzz;1g0m,1g0v;1g14,1g1r;
    1g1y,1g1y;1g35,1g35;1g3f,1g5b;1g5i,1g5j;1g5l,1g5l;1g6u,1g6u;1g6x,1g6z;1g71,1g72;1g7q,1g7q;
    1g9r,1g9y;1ga8,1gbj;1gc3,1gc3;1gc6,1gca;1gd8,1gda;1ge2,1ge6;1gey,1gfz;1ghk,1ghn;1gi8,1gi9;
    1gjo,1gjo;1gjr,1gjv;1gk4,1gk4;1gk8,1gk8;1gl2,1gl3;1gl7,1gla;1gll,1glr;1gm1,1gm7;1go0,1gov;
    1gpz,1gq2;1gqf,1gqn;1gs6,1gs8;1gt2,1gt3;1gtv,1gtz;1guq,1guw;1gv1,1gvc;1gvk,1gxr;1gzt,1h1b;
    1h2r,1h33;1h4j,1h4p;1h60,1h67;1h6i,1h6n;1h7q,1h7s;1h8m,1h8t;1h8w,1hen;1hfj,1hfj;1hgq,1hgq;
    1hgu,1hgv;1hgy,1hhd;1hhk,1hhr;1hi1,1hix;1hk8,1hkf;1hlm,1hm7;1hmy,1hnz;1hos,1hpb;1hpz,1hq7;
    1hse,1hsh;1hti,1htq;1hvh,1hvh;1hvn,1hvz;1hwp,1hwv;1hx6,1hxb;1hyt,1hyt;1hzc,1hzj;1i0n,1i0v;
    1i3k,1i3k;1i45,1i4f;1i4y,1i4y;1i6a,1i7z;1i87,1i87;1i89,1i89;1i8e,1i8e;1i8u,1i8u;1i96,1i9b;
    1iaz,1ib3;1ibe,1ibj;1ibo,1ibo;1ibx,1iby;1ic1,1ic2;1icp,1icp;1icx,1icx;1id0,1id0;1id6,1id6;
    1idh,1idi;1idl,1idm;1idq,1idr;1idt,1idy;1ie0,1ie4;1iec,1ied;1iel,1ien;1iet,1if3;1ife,1ife;
    1ifg,1ifh;1ifj,1ifj;1igm,1igm;1igx,1igx;1igz,1ih0;1ih2,1ih2;1ih7,1ih7;1ihi,1ihi;1ihl,1ihs;
    1ihv,1iin;1il8,1il8;1ile,1im7;1io8,1iof;1ioq,1itb;1iuu,1iuv;1ivy,1iwv;1iyt,1iz3;1ize,1izj;
    1izx,1j0f;1j22,1j27;1j2i,1j2n;1j38,1j3z;1j4r,1j4s;1j58,1j5b;1j5z,1jb3;1jcs,1jfj;1jhv,1ji6;
    1jif,1jig;1jii,1jij;1jis,1jis;1jiv,1jiv;1jjq,1jjq;1jjt,1jju;1jk7,1jkf;1jkq,1jmn;1jmw,1jmx;
    1jo8,1jo9;1jol,1jpb;1jrc,1jrj;1jtv,1ju7;1jw9,1jwf;1jwq,1jz3;1jzc,1k1r;1k2q,1k33;1k3e,1k3j;
    1k3t,1k3t;1k53,1k53;1k5i,1k5r;1k6l,1k6n;1k7k,1k7l;1k88,1k88;1k8n,1kan;1kav,1kav;1kay,1kay;
    1kc7,1kc9;1kcb,1kcb;1kce,1kce;1kco,1kcv;1kd6,1kdb;1kdi,1kdi;1kdl,1kdl;1ken,1ken;1keq,1keq;
    1kex,1kf3;1kfe,1kfj;1kgs,1kgv;1kh6,1knz;1kop,1kov;1kpd,1kpd;1kqj,1kql;1krf,1ktr;1ktt,1ku7;
    1kvm,1kvy;1llm,1lof;1lrj,1lrj;1lrp,1lrz;1lxg,1nyn;1o1f,1o1r;1ovk,1ovz;1owm,1owv;1rzv,1rzz;
    1sg7,1xq7;1xru,1z3z;1zjt,1zjz;1zkv,1zkv;1zl6,1zl9;1znj,1znj;1znu,1znz;1zou,1zov;1zp2,1zpb;
    1zra,1zrj;1zru,1zru;1zs2,1zs2;1zso,1zss;1ztc,205b;206y,20cf;20ez,20f3;20ft,20fu;20gk,20hr;
    20jv,20jy;20lk,20lq;20m8,20nz;20o5,20of;20on,20ov;26dy,26f2;26fz,26in;26lv,2dbj;2dbo,2dbo;
    2dbw,2dbw;2dbz,2dbz;2dk3,2dkh;2dkj,2dlb;2dlf,2dlg;2dli,2dlv;2dm0,2dm7;2dx8,2fpb;2fsb,2fsf;
    2fst,2fsv;2ft5,2ftb;2ftm,2ftn;2ftw,2iv3;2j25,2j27;2jec,2jeh;2jf5,2jfj;2jg1,2jgf;2jhq,2jhr;
    2jif,2jin;2jlw,2jnj;2jue,2jun;2jvr,2jvs;2k17,2k1r;2k3q,2k73;2k7o,2k7z;2k8k,2k8v;2kbb,2kbj;
    2kc9,2kfz;2kid,2kid;2kkd,2kkd;2kkg,2kkh;2kkj,2kkk;2kkn,2kko;2kkt,2kkt;2kl6,2kl6;2kl8,2kl8;
    2klg,2klg;2kna,2kna;2knf,2kng;2knp,2knp;2knx,2knx;2koq,2koq;2kov,2kov;2kp1,2kp1;2kp3,2kp5;
    2kpd,2kpd;2kyu,2kyv;2l70,2l71;2lqk,2lqy;2lr4,2lr4;2lrk,2mm7;2mn3,2mn8;2mnf,2mtb;2mtj,2mtj;
    2mu1,2mu2;2mua,2mua;2mud,2mud;2muj,2mun;2mwe,2mxa;2mxc,2n0f;2n1p,2n1r;2n26,2n27;2n2i,2n2l;
    2n2o,2nbj;2ncf,2ncv;2nei,2nem;2neo,2nrj;2nsq,2nyn;2nzv,2nzy;2o00,2o5b;2o67,2o67;2o6u,2o71;
    2o74,2odb;2odj,2odj;2odo,2odo;2odr,2odr;2oe7,2oe7;2ojp,2ojq;2ok7,2olb;2ong,2onj;2onu,2onx;
    2oo0,2p9s;2pbp,2pds;2pfi,2pkv;2pl0,2pl0;2pls,2pls;2plv,2plv;2plx,2ply;2pm0,2pm0;2pmb,2pmb;
    2pmg,2pmg;2pmi,2pmi;2pmk,2pmp;2pmr,2pmu;2pmw,2pmw;2pmy,2pmy;2pn0,2pn0;2pn4,2pn4;2pn7,2pn7;
    2pn9,2pna;2pnc,2pnc;2pne,2pne;2png,2png;2pni,2pni;2pnk,2pnk;2pnn,2pnn;2pnp,2pnq;2pnv,2pnv;
    2po3,2po3;2po8,2po8;2pod,2pod;2pof,2pof;2poq,2poq;2pp8,2ppc;2ppg,2ppg;2ppm,2ppm;2pq4,2prj;
    2prm,2pz3;2q0c,2q0f;2q38,2q3j;2q3z,2q40;2q4g,2q4g;2q4w,2q4w;2q5y,2q68;2qb2,2qcl;2qdf,2qdr;
    2qf0,2qf3;2qfd,2qfj;2qfm,2qfz;2qg6,2qkf;2rbt,2rbv;2rcd,2rcf;2rct,2rcv;2riy,2rj3;2rjg,2rjj;
    2rjl,2rjz;2rkc,2rkf;2rm0,2rm7;2rmi,2rmn;2rns,2rnz;2rou,2rov;2rp8,2rpb;2rpe,2rpr;2rq1,2rr3;
    2s0o,2s0v;2s1a,2s1b;2s1p,2s1r;2s23,2s25;2s3r,2s3r;2s3t,2s3w;2s4d,2s4e;2s4r,2s4u;2s55,2s5b;
    2s9f,2s9f;2scb,2t4v;3q3k,3q4f;3ti6,3ti7;3xym,3xyn;43q9,43qn;447y,464f;46ji,47pb;4bij,4bin;
    4i2i,jo5b;joc0,nvnj;"

end Roster.Unicode
