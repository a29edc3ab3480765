/-!
Classes of characters that decide where they may stand in a host name. Each row lists its numbers
in base 36.
-/

namespace Roster.Unicode

/-- Ranges of combining marks. -/
def markRanges : String :=
  "lc,of;w3,w9;13l,14t;14v,14v;14x,14y;150,151;153,153;174,17e;18r,19b;19s,19s;1cm,1cs;1cv,1d0;
    1d3,1d4;1d6,1d9;1e9,1e9;1f4,1fu;1ie,1io;1kb,1kj;1kt,1kt;1li,1ll;1ln,1lv;1lx,1lz;1m1,1m5;
    1nd,1nf;1p4,1pb;1qi,1r5;1r7,1s3;1tm,1to;1tq,1u7;1u9,1uf;1uq,1ur;1vl,1vn;1x8,1x8;1xa,1xg;
    1xj,1xk;1xn,1xp;1xz,1xz;1ya,1yb;1z2,1z2;1z5,1z7;20s,20s;20u,20y;213,214;217,219;21d,21d;
    228,229;22d,22d;22p,22r;24c,24c;24e,24l;24n,24p;24r,24t;25e,25f;262,267;269,26b;27w,27w;
    27y,284;287,288;28b,28d;28l,28n;28y,28z;29u,29u;2bi,2bm;2bq,2bs;2bu,2bx;2c7,2c7;2dc,2dg;
    2f0,2f0;2f2,2f8;2fa,2fc;2fe,2fh;2fp,2fq;2g2,2g3;2gx,2gz;2ik,2ik;2im,2is;2iu,2iw;2iy,2j1;
    2j9,2ja;2jm,2jn;2k3,2k3;2kg,2kj;2m3,2m4;2m6,2mc;2me,2mg;2mi,2ml;2mv,2mv;2n6,2n7;2o1,2o3;
    2q2,2q2;2q7,2qc;2qe,2qe;2qg,2qn;2r6,2r7;2sx,2sx;2t0,2t6;2tj,2tq;2wh,2wh;2wk,2ws;2x4,2xa;
    2zc,2zd;305,305;307,307;309,309;30e,30f;31t,32c;32e,32f;32l,32v;32x,33w;346,346;36z,37i;
    386,389;38e,38g;38i,38k;38n,38t;38x,390;39e,39p;39r,39r;3a2,3a5;3tp,3tr;4k2,4k5;4ky,4l0;
    4lu,4lv;4mq,4mr;4ok,4pf;4pp,4pp;4qz,4r1;4r3,4r3;4ud,4ue;4vd,4vd;4yo,4yz;4z4,4zf;55j,55n;
    579,57i;57k,58c;58f,58f;59s,5am;5c0,5c4;5dg,5dw;5ez,5f7;5fk,5fm;5gh,5gt;5ie,5ir;5k4,5kn;
    5ow,5oy;5p0,5pk;5pp,5pp;5pw,5pw;5pz,5q1;5vk,5xb;6hc,6i8;8vj,8vl;8zj,8zj;928,933;9ii,9in;
    9ll,9lm;wvj,wvm;wvo,wvx;wwu,wwv;wz4,wz5;x6q,x6q;x6u,x6u;x6z,x6z;x7n,x7r;x7w,x7w;xa8,xa9;
    xbo,xc5;xcw,xdd;xdr,xdr;xeu,xf1;xfr,xg3;xhc,xhf;xir,xj4;xk5,xk5;xm1,xme;xmr,xmr;xn0,xn1;
    xob,xod;xps,xps;xpu,xpw;xpz,xq0;xq6,xq7;xq9,xq9;xrf,xrj;xrp,xrq;xyb,xyi;xyk,xyl;1dlq,1dlq;
    1e68,1e6n;1e74,1e7j;1eyl,1eyl;1f4w,1f4w;1f92,1f96;1gjl,1gjn;1gjp,1gjq;1gjw,1gjz;1gl4,1gl6;
    1glb,1glb;1gpx,1gpy;1h5w,1h5z;1hgr,1hgs;1hj1,1hj3;1hl2,1hlc;1hmq,1hmt;1hq8,1hqa;1hrs,1hs6;
    1htc,1htc;1htf,1htg;1htr,1htu;1hv4,1hve;1hvm,1hvm;1hxc,1hxe;1hyf,1hys;1hz9,1hza;1i0j,1i0j;
    1i0w,1i0y;1i2b,1i2o;1i2x,1i30;1i32,1i33;1i5o,1i5z;1i66,1i66;1i69,1i69;1ian,1iay;1ibk,1ibn;
    1id7,1id8;1ida,1idg;1idj,1idk;1idn,1idp;1idz,1idz;1iea,1ieb;1iee,1iek;1ieo,1ies;1ik5,1ikm;
    1ila,1ila;1ink,1io3;1iun,1iut;1iuw,1iv4;1ivw,1ivx;1iy8,1iyo;1j1n,1j1z;1j4t,1j57;1jcc,1jcq;
    1jjk,1jjp;1jjr,1jjs;1jjv,1jjy;1jk0,1jk0;1jk2,1jk3;1jo1,1jo7;1joa,1jog;1jok,1jok;1jpd,1jpm;
    1jqr,1jqx;1jqz,1jr2;1jrb,1jrb;1jrl,1jrv;1jt6,1jtl;1k4v,1k52;1k54,1k5b;1k7m,1k87;1k89,1k8m;
    1kc1,1kc6;1kca,1kca;1kcc,1kcd;1kcf,1kcl;1kcn,1kcn;1kei,1kem;1keo,1kep;1ker,1kev;1koj,1kom;
    1kow,1kox;1koz,1koz;1kqc,1kqi;1kqm,1kqq;1ow0,1ow0;1ow7,1owl;1zow,1zp0;1zqo,1zqu;20jz,20jz;
    20k1,20lj;20lr,20lu;20o4,20o4;20og,20oh;2ftp,2ftq;2jgg,2jhp;2jhs,2jie;2jxh,2jxl;2jxp,2jxu;
    2jy3,2jya;2jyd,2jyj;2jze,2jzh;2k3m,2k3o;2lmo,2lo6;2lob,2lpo;2lpx,2lpx;2lqc,2lqc;2lqz,2lr3;
    2lr5,2lrj;2mtc,2mti;2mtk,2mu0;2mu3,2mu9;2mub,2muc;2mue,2mui;2mxb,2mxb;2n1s,2n1y;2nce,2nce;
    2ne4,2ne7;2nsc,2nsf;2ok0,2ok6;2on8,2one;jo5c,jobz;"

/-- Ranges of characters with a number for their direction. -/
def directionRanges : String :=
  "0,8,9;9,d,b;e,r,9;s,w,b;x,y,8;z,11,7;12,16,8;17,17,5;18,18,6;19,19,5;1a,1b,6;1c,1l,4;
    1m,1m,6;1n,1s,8;2j,2o,8;3f,3i,8;3j,3o,9;3p,3p,b;3q,4f,9;4g,4g,6;4h,4h,8;4i,4l,7;4m,4p,8;
    4r,4s,8;4t,4t,9;4u,4v,8;4w,4x,7;4y,4z,4;50,50,8;52,54,8;55,55,4;57,5b,8;5z,5z,8;6v,6v,8;
    jd,je,8;jm,jz,8;k2,kf,8;kl,kt,8;kv,lb,8;lc,of,a;ok,ol,8;ou,ou,8;p0,p1,8;p3,p3,8;s6,s6,8;
    w3,w9,a;13e,13e,8;13h,13i,8;13j,13j,7;13l,14t,a;14u,14u,1;14v,14v,a;14w,14w,1;14x,14y,a;
    14z,14z,1;150,151,a;152,152,1;153,153,a;15c,162,1;167,16c,1;16o,16t,3;16u,16v,8;16w,16w,2;
    16x,16y,7;16z,16z,2;170,170,6;171,171,2;172,173,8;174,17e,a;17f,18q,2;18r,19b,a;19c,19l,3;
    19m,19m,7;19n,19o,3;19p,19r,2;19s,19s,a;19t,1cl,2;1cm,1cs,a;1ct,1ct,3;1cu,1cu,8;1cv,1d0,a;
    1d1,1d2,2;1d3,1d4,a;1d5,1d5,8;1d6,1d9,a;1da,1db,2;1dc,1dl,4;1dm,1e5,2;1e7,1e8,2;1e9,1e9,a;
    1ea,1f3,2;1f4,1fu,a;1fx,1id,2;1ie,1io,a;1ip,1ip,2;1j4,1ka,1;1kb,1kj,a;1kk,1kl,1;1km,1kp,8;
    1kq,1kq,1;1kt,1kt,a;1ku,1lh,1;1li,1ll,a;1lm,1lm,1;1ln,1lv,a;1lw,1lw,1;1lx,1lz,a;1m0,1m0,1;
    1m1,1m5,a;1m8,1mm,1;1mo,1nc,1;1nd,1nf,a;1ni,1ni,1;1nk,1nu,2;1o0,1ou,2;1ow,1ox,3;1p4,1pb,a;
    1pc,1qh,2;1qi,1r5,a;1r6,1r6,3;1r7,1s2,a;1tm,1tm,a;1to,1to,a;1tt,1u0,a;1u5,1u5,a;1u9,1uf,a;
    1uq,1ur,a;1vl,1vl,a;1x8,1x8,a;1xd,1xg,a;1xp,1xp,a;1ya,1yb,a;1yq,1yr,7;1yz,1yz,7;1z2,1z2,a;
    1z5,1z6,a;20s,20s,a;20x,20y,a;213,214,a;217,219,a;21d,21d,a;228,229,a;22d,22d,a;22p,22q,a;
    24c,24c,a;24h,24l,a;24n,24o,a;24t,24t,a;25e,25f,a;25t,25t,7;262,267,a;269,269,a;27w,27w,a;
    27z,27z,a;281,284,a;28d,28d,a;28l,28m,a;28y,28z,a;29u,29u,a;2bk,2bk,a;2bx,2bx,a;2cz,2d4,8;
    2d5,2d5,7;2d6,2d6,8;2dc,2dc,a;2dg,2dg,a;2f0,2f0,a;2f2,2f4,a;2fa,2fc,a;2fe,2fh,a;2fp,2fq,a;
    2g2,2g3,a;2go,2gu,8;2gx,2gx,a;2ik,2ik,a;2j0,2j1,a;2jm,2jn,a;2kg,2kh,a;2m3,2m4,a;2m9,2mc,a;
    2ml,2ml,a;2n6,2n7,a;2o1,2o1,a;2q2,2q2,a;2qa,2qc,a;2qe,2qe,a;2sx,2sx,a;2t0,2t6,a;2tb,2tb,7;
    2tj,2tq,a;2wh,2wh,a;2wk,2ws,a;2x4,2xa,a;2zc,2zd,a;305,305,a;307,307,a;309,309,a;30a,30d,8;
    31t,326,a;328,32c,a;32e,32f,a;32l,32v,a;32x,33w,a;346,346,a;371,374,a;376,37b,a;37d,37e,a;
    37h,37i,a;388,389,a;38e,38g,a;38x,390,a;39e,39e,a;39h,39i,a;39p,39p,a;3a5,3a5,a;3tp,3tr,a;
    3v4,3vd,8;3y8,3y8,8;4g0,4g0,b;4gr,4gs,8;4k2,4k4,a;4ky,4kz,a;4lu,4lv,a;4mq,4mr,a;4ok,4ol,a;
    4on,4ot,a;4p2,4p2,a;4p5,4pf,a;4pn,4pn,7;4pp,4pp,a;4q8,4qh,8;4qo,4qy,8;4qz,4r1,a;4r2,4r2,9;
    4r3,4r3,a;4ud,4ue,a;4vd,4vd,a;4yo,4yq,a;4yv,4yw,a;4z6,4z6,a;4zd,4zf,a;4zk,4zk,8;4zo,4zp,8;
    53y,54v,8;55j,55k,a;55n,55n,a;57a,57a,a;57c,57i,a;57k,57k,a;57m,57m,a;57p,57w,a;583,58c,a;
    58f,58f,a;59s,5am,a;5c0,5c3,a;5dg,5dg,a;5di,5dm,a;5do,5do,a;5du,5du,a;5ez,5f7,a;5fk,5fl,a;
    5gi,5gl,a;5go,5gp,a;5gr,5gt,a;5ie,5ie,a;5ig,5ih,a;5il,5il,a;5in,5ip,a;5kc,5kj,a;5km,5kn,a;
    5ow,5oy,a;5p0,5pc,a;5pe,5pk,a;5pp,5pp,a;5pw,5pw,a;5q0,5q1,a;5vk,5xb,a;69p,69p,8;69r,69t,8;
    6a5,6a7,8;6al,6an,8;6b1,6b3,8;6bh,6bi,8;6bk,6bu,b;6bv,6bx,9;6bz,6bz,1;6c0,6cn,8;6co,6cu,b;
    6cv,6cv,6;6cw,6d0,7;6d1,6df,8;6dg,6dg,6;6dh,6e6,8;6e7,6e7,b;6e8,6ec,9;6ee,6eh,b;6ei,6en,9;
    6eo,6eo,4;6es,6ex,4;6ey,6ez,5;6f0,6f2,8;6f4,6fd,4;6fe,6ff,5;6fg,6fi,8;6g0,6gw,7;6hc,6i8,a;
    6io,6ip,8;6ir,6iu,8;6iw,6ix,8;6j8,6j8,8;6ja,6jc,8;6ji,6jn,8;6jp,6jp,8;6jr,6jr,8;6jt,6jt,8;
    6jy,6jy,7;6ka,6kb,8;6kg,6kk,8;6kq,6kt,8;6kw,6lb,8;6mh,6mj,8;6mo,6q9,8;6qa,6qa,5;6qb,6qb,7;
    6qc,6yd,8;70b,710,8;712,752,8;75s,762,8;76o,77r,8;77s,78b,4;7ai,7mz,8;7n1,7wf,8;83k,8kz,8;
    8l2,8lx,8;8lz,8ov,8;8v9,8ve,8;8vj,8vl,a;8vt,8vz,8;8zj,8zj,a;928,933,a;934,95p,8;96o,97d,8;
    97f,99v,8;9a8,9g5,8;9gw,9h7,8;9hc,9hc,b;9hd,9hg,8;9hk,9i8,8;9ii,9il,a;9io,9io,8;9iu,9iv,8;
    9j1,9j3,8;9ll,9lm,a;9ln,9lo,8;9ls,9ls,8;9ob,9ob,8;9ts,9ur,8;9wd,9we,8;9xs,9y7,8;9z0,9z2,8;
    a0h,a0v,8;a18,a1b,8;a5z,a62,8;a8u,a8v,8;a9r,a9r,8;fcw,fen,8;wi8,wjq,8;wst,wsv,8;wvj,wvm,a;
    wvn,wvn,8;wvo,wvx,a;wvy,wvz,8;wwu,wwv,a;wz4,wz5,a;wzk,x0h,8;x3c,x3c,8;x6q,x6q,a;x6u,x6u,a;
    x6z,x6z,a;x7p,x7q,a;x7s,x7v,8;x7w,x7w,a;x88,x89,7;x9w,x9z,8;xc4,xc5,a;xcw,xdd,a;xdr,xdr,a;
    xeu,xf1,a;xfr,xg1,a;xhc,xhe,a;xir,xir,a;xiu,xix,a;xj0,xj1,a;xk5,xk5,a;xm1,xm6,a;xm9,xma,a;
    xmd,xme,a;xmr,xmr,a;xn0,xn0,a;xoc,xoc,a;xps,xps,a;xpu,xpw,a;xpz,xq0,a;xq6,xq7,a;xq9,xq9,a;
    xrg,xrh,a;xrq,xrq,a;xuy,xuz,8;xyd,xyd,a;xyg,xyg,a;xyl,xyl,a;1dlp,1dlp,1;1dlq,1dlq,a;
    1dlr,1dm0,1;1dm1,1dm1,5;1dm2,1dme,1;1dmg,1dmk,1;1dmm,1dmm,1;1dmo,1dmp,1;1dmr,1dms,1;
    1dmu,1dn3,1;1dn4,1dqa,2;1dqr,1e0t,2;1e0u,1e1b,8;1e1c,1e33,2;1e36,1e4n,2;1e4v,1e4v,8;
    1e5s,1e64,2;1e65,1e67,8;1e68,1e6n,a;1e6o,1e6x,8;1e74,1e7j,a;1e7k,1e8f,8;1e8g,1e8g,6;
    1e8h,1e8h,8;1e8i,1e8i,6;1e8k,1e8k,8;1e8l,1e8l,6;1e8m,1e8u,8;1e8v,1e8v,7;1e8w,1e8x,8;
    1e8y,1e8z,5;1e90,1e92,8;1e94,1e94,8;1e95,1e96,7;1e97,1e97,8;1e9c,1e9g,2;1e9i,1ed8,2;
    1edb,1edb,9;1edd,1ede,8;1edf,1edh,7;1edi,1edm,8;1edn,1edn,5;1edo,1edo,6;1edp,1edp,5;
    1edq,1edr,6;1eds,1ee1,4;1ee2,1ee2,6;1ee3,1ee8,8;1eez,1ef4,8;1efv,1eg5,8;1ejk,1ejl,7;
    1ejm,1ejo,8;1ejp,1ejq,7;1ejs,1ejy,8;1ek9,1ekd,8;1erl,1erl,8;1etc,1evg,8;1evk,1evw,8;
    1ew0,1ew0,8;1eyl,1eyl,a;1f4w,1f4w,a;1f4x,1f5n,4;1f92,1f96,a;1g5c,1g5h,1;1g5k,1g5k,1;
    1g5m,1g6t,1;1g6v,1g6w,1;1g70,1g70,1;1g73,1g7p,1;1g7r,1g9q,1;1g9z,1ga7,1;1gbk,1gc2,1;
    1gc4,1gc5,1;1gcb,1gd7,1;1gdb,1gdb,8;1gdc,1ge1,1;1ge7,1ge7,1;1gg0,1ghj,1;1gho,1gi7,1;
    1gia,1gjk,1;1gjl,1gjn,a;1gjp,1gjq,a;1gjw,1gjz,a;1gk0,1gk3,1;1gk5,1gk7,1;1gk9,1gl1,1;
    1gl4,1gl6,a;1glb,1glb,a;1glc,1glk,1;1gls,1gm0,1;1gm8,1gnz,1;1gow,1gpw,1;1gpx,1gpy,a;
    1gq3,1gqe,1;1gqo,1gs5,1;1gs9,1gsf,8;1gsg,1gt1,1;1gt4,1gtu,1;1gu0,1gup,1;1gux,1gv0,1;
    1gvd,1gvj,1;1gxs,1gzs,1;1h1c,1h2q,1;1h34,1h4i,1;1h4q,1h4v,1;1h4w,1h5v,2;1h5w,1h5z,a;
    1h68,1h6h,3;1heo,1hfi,3;1hfk,1hgp,1;1hgr,1hgs,a;1hgt,1hgt,1;1hgw,1hgx,1;1hj1,1hj3,a;
    1hj4,1hk7,1;1hkg,1hl1,2;1hl2,1hlc,a;1hld,1hll,2;1hm8,1hmp,1;1hmq,1hmt,a;1hmu,1hmx,1;
    1ho0,1hor,1;1hpc,1hpy,1;1hq9,1hq9,a;1hrs,1hs6,a;1hsi,1ht1,8;1htc,1htc,a;1htf,1htg,a;
    1htr,1htt,a;1hv7,1hva,a;1hvd,1hve,a;1hvm,1hvm,a;1hxc,1hxe,a;1hyf,1hyj,a;1hyl,1hys,a;
    1i0j,1i0j,a;1i0w,1i0x,a;1i2e,1i2m,a;1i2x,1i30,a;1i33,1i33,a;1i5r,1i5t,a;1i5w,1i5w,a;
    1i5y,1i5z,a;1i66,1i66,a;1i69,1i69,a;1ian,1ian,a;1iar,1iay,a;1ibk,1ibl,a;1id7,1id8,a;
    1idc,1idc,a;1iee,1iek,a;1ieo,1ies,a;1ik8,1ikf,a;1iki,1ikk,a;1ikm,1ikm,a;1ila,1ila,a;
    1inn,1ins,a;1inu,1inu,a;1inz,1io0,a;1io2,1io3,a;1iuq,1iut,a;1iv0,1iv1,a;1iv3,1iv4,a;
    1ivw,1ivx,a;1iyb,1iyi,a;1iyl,1iyl,a;1iyn,1iyo,a;1izk,1izw,8;1j1n,1j1n,a;1j1p,1j1p,a;
    1j1s,1j1x,a;1j1z,1j1z,a;1j4t,1j4v,a;1j4y,1j51,a;1j53,1j57,a;1jcf,1jcn,a;1jcp,1jcq,a;
    1jjv,1jjw,a;1jjy,1jjy,a;1jk3,1jk3,a;1jo4,1jo7,a;1joa,1job,a;1jog,1jog,a;1jpd,1jpi,a;
    1jpl,1jpm,a;1jqr,1jqw,a;1jqz,1jr2,a;1jrb,1jrb,a;1jrl,1jrq,a;1jrt,1jrv,a;1jt6,1jti,a;
    1jtk,1jtl,a;1k4w,1k52,a;1k54,1k59,a;1k7m,1k87,a;1k8a,1k8g,a;1k8i,1k8j,a;1k8l,1k8m,a;
    1kc1,1kc6,a;1kca,1kca,a;1kcc,1kcd,a;1kcf,1kcl,a;1kcn,1kcn,a;1keo,1kep,a;1ket,1ket,a;
    1kev,1kev,a;1koj,1kok,a;1kow,1kox,a;1kqe,1kqi,a;1kqo,1kqo,a;1kqq,1kqq,a;1kut,1kv0,8;
    1kv1,1kv4,7;1kv5,1kvl,8;1ow0,1ow0,a;1ow7,1owl,a;1zow,1zp0,a;1zqo,1zqu,a;20jz,20jz,a;
    20lr,20lu,a;20o2,20o2,8;20o4,20o4,a;2ftp,2ftq,a;2fts,2ftv,9;2jgg,2jhp,a;2jhs,2jie,a;
    2jxj,2jxl,a;2jxv,2jy2,9;2jy3,2jya,a;2jyd,2jyj,a;2jze,2jzh,a;2k15,2k16,8;2k1s,2k3l,8;
    2k3m,2k3o,a;2k3p,2k3p,8;2k8w,2kba,8;2l0b,2l0b,8;2l1x,2l1x,8;2l3j,2l3j,8;2l55,2l55,8;
    2l6r,2l6r,8;2l72,2l8f,4;2lmo,2lo6,a;2lob,2lpo,a;2lpx,2lpx,a;2lqc,2lqc,a;2lqz,2lr3,a;
    2lr5,2lrj,a;2mtc,2mti,a;2mtk,2mu0,a;2mu3,2mu9,a;2mub,2muc,a;2mue,2mui,a;2mxb,2mxb,a;
    2n1s,2n1y,a;2nce,2nce,a;2ne4,2ne7,a;2nen,2nen,7;2nsc,2nsf,a;2oe8,2ojo,1;2ojr,2ojz,1;
    2ok0,2ok6,a;2olc,2on7,1;2on8,2one,a;2onf,2onf,1;2onk,2ont,1;2ony,2onz,1;2p9t,2pbo,2;
    2pdt,2pfh,2;2pkw,2pkz,2;2pl1,2plr,2;2plt,2plu,2;2plw,2plw,2;2plz,2plz,2;2pm1,2pma,2;
    2pmc,2pmf,2;2pmh,2pmh,2;2pmj,2pmj,2;2pmq,2pmq,2;2pmv,2pmv,2;2pmx,2pmx,2;2pmz,2pmz,2;
    2pn1,2pn3,2;2pn5,2pn6,2;2pn8,2pn8,2;2pnb,2pnb,2;2pnd,2pnd,2;2pnf,2pnf,2;2pnh,2pnh,2;
    2pnj,2pnj,2;2pnl,2pnm,2;2pno,2pno,2;2pnr,2pnu,2;2pnw,2po2,2;2po4,2po7,2;2po9,2poc,2;
    2poe,2poe,2;2pog,2pop,2;2por,2pp7,2;2ppd,2ppf,2;2pph,2ppl,2;2ppn,2pq3,2;2prk,2prl,8;
    2pz4,2q0b,8;2q0g,2q37,8;2q3k,2q3y,8;2q41,2q4f,8;2q4h,2q4v,8;2q4x,2q5x,8;2q68,2q6i,4;
    2q6j,2q6n,8;2q7j,2q7j,8;2q96,2q9b,8;2qb1,2qb1,8;2qg0,2qg5,8;2qkg,2rbr,8;2rbw,2rcc,8;
    2rcg,2rcs,8;2rcw,2rg6,8;2rgb,2rix,8;2rj4,2rjf,8;2rjk,2rjk,8;2rk0,2rkb,8;2rkg,2rlz,8;
    2rm8,2rmh,8;2rmo,2rnr,8;2ro0,2rot,8;2row,2rox,8;2rr4,2s0j,8;2s0w,2s19,8;2s1c,2s1o,8;
    2s1s,2s20,8;2s28,2s3h,8;2s3j,2s3p,8;2s3y,2s4b,8;2s4g,2s4o,8;2s4w,2s54,8;2s5c,2s9e,8;
    2s9g,2say,8;2sc0,2sc9,4;jny9,jny9,9;jnz4,jo1r,9;jo5c,jobz,a;"

/-- Ranges of letters that join to both sides. -/
def joinsBothSides : String :=
  "17k,17k;17q,17q;17s,17s;17u,17y;183,18f;18h,18n;18p,18q;19q,19r;1a0,1af;1ay,1bz;1c1,1c2;
    1cc,1cc;1ce,1ce;1cg,1ch;1dm,1do;1dr,1dr;1ea,1ec;1ei,1el;1en,1ev;1ex,1ex;1ez,1ez;1f1,1f2;
    1fy,1g8;1gc,1gq;1gt,1gw;1gy,1gy;1h1,1h3;1h6,1hb;1je,1ka;1mp,1mt;1mw,1mw;1my,1n7;1n9,1n9;
    1nk,1nk;1nm,1np;1ns,1ns;1om,1om;1op,1ot;1ov,1ov;1pc,1pl;1pr,1ps;1pv,1q0;1q2,1qg;4qv,4qv;
    4rk,4u0;4uf,4vc;4ve,4ve;x8g,x9t;1gow,1gp0;1gpf,1gpi;1gpk,1gpo;1gpq,1gps;1gq3,1gq6;1gu8,1gu8;
    1gua,1gua;1gue,1gug;1gui,1guj;1gul,1gul;1guo,1guo;1gvh,1gvi;1h4x,1h5t;1h5v,1h5v;1hhf,1hhg;
    1hhi,1hhj;1hkg,1hki;1hkk,1hl0;1hld,1hlf;1hm8,1hmb;1hme,1hmp;1ho0,1ho0;1ho2,1ho3;1ho8,1ho8;
    1hob,1hoc;1hoe,1hof;1hoh,1hoh;1hok,1hok;1hoq,1hoq;2olc,2on7;"

/-- Ranges of letters that join to the left. -/
def joinsLeft : String :=
  "x9u,x9u;1gp9,1gp9;1gpj,1gpj;1h4w,1h4w;1hor,1hor;"

/-- Ranges of letters that join to the right. -/
def joinsRight : String :=
  "17m,17p;17r,17r;17t,17t;17z,182;18o,18o;19t,19v;19x,19z;1ag,1ax;1c0,1c0;1c3,1cb;1cd,1cd;
    1cf,1cf;1ci,1cj;1cl,1cl;1da,1db;1e8,1e8;1ed,1eh;1em,1em;1ew,1ew;1ey,1ey;1f0,1f0;1f3,1f3;
    1fx,1fx;1g9,1gb;1gr,1gs;1gx,1gx;1gz,1h0;1h4,1h5;1mo,1mo;1mu,1mv;1mx,1mx;1n8,1n8;1na,1nc;
    1nr,1nr;1nt,1nu;1o0,1oi;1ou,1ou;1pm,1po;1pq,1pq;1pt,1pu;1q1,1q1;1gp1,1gp1;1gp3,1gp3;
    1gp5,1gp6;1gpa,1gpe;1gpp,1gpp;1gpt,1gpt;1gpw,1gpw;1gq7,1gq7;1gu9,1gu9;1gub,1gud;1guh,1guh;
    1guk,1guk;1gum,1gun;1gup,1gup;1gvd,1gvg;1h5u,1h5u;1hhe,1hhe;1hkj,1hkj;1hlg,1hlg;1hmc,1hmd;
    1ho4,1ho6;1ho9,1hoa;1hod,1hod;1hoi,1hoj;1hop,1hop;"

/-- Ranges of characters that joining passes over. -/
def joinsThrough : String :=
  "4t,4t;lc,of;w3,w9;13l,14t;14v,14v;14x,14y;150,151;153,153;174,17e;17g,17g;18r,19b;19s,19s;
    1cm,1cs;1cv,1d0;1d3,1d4;1d6,1d9;1e7,1e7;1e9,1e9;1f4,1fu;1ie,1io;1kb,1kj;1kt,1kt;1li,1ll;
    1ln,1lv;1lx,1lz;1m1,1m5;1nd,1nf;1p3,1pb;1qi,1r5;1r7,1s2;1tm,1tm;1to,1to;1tt,1u0;1u5,1u5;
    1u9,1uf;1uq,1ur;1vl,1vl;1x8,1x8;1xd,1xg;1xp,1xp;1ya,1yb;1z2,1z2;1z5,1z6;20s,20s;20x,20y;
    213,214;217,219;21d,21d;228,229;22d,22d;22p,22q;24c,24c;24h,24l;24n,24o;24t,24t;25e,25f;
    262,267;269,269;27w,27w;27z,27z;281,284;28d,28d;28l,28m;28y,28z;29u,29u;2bk,2bk;2bx,2bx;
    2dc,2dc;2dg,2dg;2f0,2f0;2f2,2f4;2fa,2fc;2fe,2fh;2fp,2fq;2g2,2g3;2gx,2gx;2ik,2ik;2in,2in;
    2iu,2iu;2j0,2j1;2jm,2jn;2kg,2kh;2m3,2m4;2m9,2mc;2ml,2ml;2n6,2n7;2o1,2o1;2q2,2q2;2qa,2qc;
    2qe,2qe;2sx,2sx;2t0,2t6;2tj,2tq;2wh,2wh;2wk,2ws;2x4,2xa;2zc,2zd;305,305;307,307;309,309;
    31t,326;328,32c;32e,32f;32l,32v;32x,33w;346,346;371,374;376,37b;37d,37e;37h,37i;388,389;
    38e,38g;38x,390;39e,39e;39h,39i;39p,39p;3a5,3a5;3tp,3tr;4k2,4k4;4ky,4kz;4lu,4lv;4mq,4mr;
    4ok,4ol;4on,4ot;4p2,4p2;4p5,4pf;4pp,4pp;4qz,4r1;4r3,4r3;4ud,4ue;4vd,4vd;4yo,4yq;4yv,4yw;
    4z6,4z6;4zd,4zf;55j,55k;55n,55n;57a,57a;57c,57i;57k,57k;57m,57m;57p,57w;583,58c;58f,58f;
    59s,5b1;5b4,5bf;5c0,5c3;5dg,5dg;5di,5dm;5do,5do;5du,5du;5ez,5f7;5fk,5fl;5gi,5gl;5go,5gp;
    5gr,5gt;5ie,5ie;5ig,5ih;5il,5il;5in,5ip;5kc,5kj;5km,5kn;5ow,5oy;5p0,5pc;5pe,5pk;5pp,5pp;
    5pw,5pw;5q0,5q1;5vk,5xb;6bv,6bv;6by,6bz;6cq,6cu;6e8,6ec;6ei,6en;6hc,6i8;8vj,8vl;8zj,8zj;
    928,933;9ii,9il;9ll,9lm;wvj,wvm;wvo,wvx;wwu,wwv;wz4,wz5;x6q,x6q;x6u,x6u;x6z,x6z;x7p,x7q;
    x7w,x7w;xc4,xc5;xcw,xdd;xdr,xdr;xeu,xf1;xfr,xg1;xhc,xhe;xir,xir;xiu,xix;xj0,xj1;xk5,xk5;
    xm1,xm6;xm9,xma;xmd,xme;xmr,xmr;xn0,xn0;xoc,xoc;xps,xps;xpu,xpw;xpz,xq0;xq6,xq7;xq9,xq9;
    xrg,xrh;xrq,xrq;xyd,xyd;xyg,xyg;xyl,xyl;1dlq,1dlq;1e68,1e6n;1e74,1e7j;1edb,1edb;1ek9,1ekb;
    1eyl,1eyl;1f4w,1f4w;1f92,1f96;1gjl,1gjn;1gjp,1gjq;1gjw,1gjz;1gl4,1gl6;1glb,1glb;1gpx,1gpy;
    1h5w,1h5z;1h7t,1h7x;1hgr,1hgs;1hiy,1hj3;1hl2,1hlc;1hmq,1hmt;1hq9,1hq9;1hrs,1hs6;1htc,1htc;
    1htf,1htg;1htr,1htt;1hv7,1hva;1hvd,1hve;1hvm,1hvm;1hxc,1hxe;1hyf,1hyj;1hyl,1hys;1i0j,1i0j;
    1i0w,1i0x;1i2e,1i2m;1i2x,1i30;1i33,1i33;1i5r,1i5t;1i5w,1i5w;1i5y,1i5z;1i66,1i66;1i69,1i69;
    1ian,1ian;1iar,1iay;1ibk,1ibl;1id7,1id8;1idc,1idc;1iee,1iek;1ieo,1ies;1igr,1igw;1iha,1iha;
    1ihc,1ihc;1ihe,1ihe;1iht,1ihu;1ik8,1ikf;1iki,1ikk;1ikm,1ikm;1ila,1ila;1inn,1ins;1inu,1inu;
    1inz,1io0;1io2,1io3;1iuq,1iut;1iv0,1iv1;1iv3,1iv4;1ivw,1ivx;1iyb,1iyi;1iyl,1iyl;1iyn,1iyo;
    1j1n,1j1n;1j1p,1j1p;1j1s,1j1x;1j1z,1j1z;1j4t,1j4t;1j4v,1j4v;1j4y,1j51;1j53,1j57;1jcf,1jcn;
    1jcp,1jcq;1jjv,1jjw;1jjy,1jjy;1jk3,1jk3;1jo4,1jo7;1joa,1job;1jog,1jog;1jpd,1jpm;1jqr,1jqw;
    1jqz,1jr2;1jrb,1jrb;1jrl,1jrq;1jrt,1jrv;1jt6,1jti;1jtk,1jtl;1jz4,1jz4;1jz6,1jz8;1jza,1jza;
    1k4w,1k52;1k54,1k59;1k5b,1k5b;1k7m,1k87;1k8a,1k8g;1k8i,1k8j;1k8l,1k8m;1kc1,1kc6;1kca,1kca;
    1kcc,1kcd;1kcf,1kcl;1kcn,1kcn;1keo,1kep;1ket,1ket;1kev,1kev;1koj,1kok;1kow,1kox;1kqe,1kqi;
    1kqo,1kqo;1kqq,1kqq;1kre,1kre;1ovk,1ow0;1ow7,1owl;1xr2,1xrd;1xrh,1xrj;1zow,1zp0;1zqo,1zqu;
    20jz,20jz;20lr,20lu;20o4,20o4;2ftp,2ftq;2fts,2ftv;2jgg,2jhp;2jhs,2jie;2jxj,2jxl;2jxv,2jya;
    2jyd,2jyj;2jze,2jzh;2k3m,2k3o;2lmo,2lo6;2lob,2lpo;2lpx,2lpx;2lqc,2lqc;2lqz,2lr3;2lr5,2lrj;
    2mtc,2mti;2mtk,2mu0;2mu3,2mu9;2mub,2muc;2mue,2mui;2mxb,2mxb;2n1s,2n1y;2nce,2nce;2ne4,2ne7;
    2nsc,2nsf;2nzi,2nzj;2o6b,2o6b;2o6e,2o6e;2o6m,2o6n;2o6t,2o6t;2ok0,2ok6;2on8,2onf;jny9,jny9;
    jnz4,jo1r;jo5c,jobz;"

end Roster.Unicode
