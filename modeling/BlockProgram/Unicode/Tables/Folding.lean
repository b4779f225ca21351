/-! # Simple case folding

The simple case folding of Unicode 16.0: for each code point that folds to another, the difference from the previous such code point and, after a colon, the code point it folds to, both in base 36; pairs are separated by spaces.
-/

namespace BlockProgram.Unicode.Tables

/-- The code points that fold and what they fold to. -/
def foldingTable : String :=
  "1t:2p 1:2q 1:2r 1:2s 1:2t 1:2u 1:2v 1:2w 1:2x 1:2y 1:2z 1:30 1:31 1:32 1:33 1:34 1:35 1:36 1:37 1:38 1:39 1:3a 1:3b 1:3c 1:3d 1:3e 2j:qk b:68 1:69 1:6a 1:6b 1:6c 1:6d 1:6e 1:6f 1:6g 1:6h 1:6i 1:6j 1:6k 1:6l 1:6m 1:6n 1:6o 1:6p 1:6q 1:6r 1:6s 1:6t 1:6u 2:6w 1:6x 1:6y 1:6z 1:70 1:71 1:72 y:75 2:77 2:79 2:7b 2:7d 2:7f 2:7h 2:7j 2:7l 2:7n 2:7p 2:7r 2:7t 2:7v 2:7x 2:7z 2:81 2:83 2:85 2:87 2:89 2:8b 2:8d 2:8f 4:8j 2:8l 2:8n 3:8q 2:8s 2:8u 2:8w 2:8y 2:90 2:92 2:94 3:97 2:99 2:9b 2:9d 2:9f 2:9h 2:9j 2:9l 2:9n 2:9p 2:9r 2:9t 2:9v 2:9x 2:9z 2:a1 2:a3 2:a5 2:a7 2:a9 2:ab 2:ad 2:af 2:73 1:ai 2:ak 2:am 2:37 2:gj 1:ar 2:at 2:gk 1:aw 2:gm 1:gn 1:b0 3:d9 1:gp 1:gr 1:b6 2:gw 1:gz 2:h5 1:h4 1:bd 4:hb 1:he 2:hh 1:bl 2:bn 2:bp 2:hs 1:bs 2:hv 3:bx 2:i0 1:c0 2:i2 1:i3 1:c4 2:c6 2:ia 1:c9 4:cd 8:cm 1:cm 2:cp 1:cp 2:cs 1:cs 2:cu 2:cw 2:cy 2:d0 2:d2 2:d4 2:d6 2:d8 3:db 2:dd 2:df 2:dh 2:dj 2:dl 2:dn 2:dp 2:dr 3:dv 1:dv 2:dx 2:b9 1:cf 1:e1 2:e3 2:e5 2:e7 2:e9 2:eb 2:ed 2:ef 2:eh 2:ej 2:el 2:en 2:ep 2:er 2:et 2:ev 2:ex 2:ez 2:f1 2:f3 2:bi 2:f7 2:f9 2:fb 2:fd 2:ff 2:fh 2:fj 2:fl 2:fn 8:8rp 1:fw 2:be 1:8rq 3:g2 2:ao 1:i1 1:i4 1:g7 2:g9 2:gb 2:gd 2:gf 6v:qh 17:oh 2:oj 4:on 9:s3 7:q4 2:q5 1:q6 1:q7 2:r0 2:r1 1:r2 2:q9 1:qa 1:qb 1:qc 1:qd 1:qe 1:qf 1:qg 1:qh 1:qi 1:qj 1:qk 1:ql 1:qm 1:qn 1:qo 1:qp 2:qr 1:qs 1:qt 1:qu 1:qv 1:qw 1:qx 1:qy 1:qz n:qr d:rb 1:qa 1:qg 4:qu 1:qo 2:rd 2:rf 2:rh 2:rj 2:rl 2:rn 2:rp 2:rr 2:rt 2:rv 2:rx 2:rz 2:qi 1:qp 3:qg 1:qd 2:s8 2:s2 1:sb 3:or 1:os 1:ot 1:uo 1:up 1:uq 1:ur 1:us 1:ut 1:uu 1:uv 1:uw 1:ux 1:uy 1:uz 1:v0 1:v1 1:v2 1:v3 1:ts 1:tt 1:tu 1:tv 1:tw 1:tx 1:ty 1:tz 1:u0 1:u1 1:u2 1:u3 1:u4 1:u5 1:u6 1:u7 1:u8 1:u9 1:ua 1:ub 1:uc 1:ud 1:ue 1:uf 1:ug 1:uh 1:ui 1:uj 1:uk 1:ul 1:um 1:un 1d:v5 2:v7 2:v9 2:vb 2:vd 2:vf 2:vh 2:vj 2:vl 2:vn 2:vp 2:vr 2:vt 2:vv 2:vx 2:vz 2:w1 a:wb 2:wd 2:wf 2:wh 2:wj 2:wl 2:wn 2:wp 2:wr 2:wt 2:wv 2:wx 2:wz 2:x1 2:x3 2:x5 2:x7 2:x9 2:xb 2:xd 2:xf 2:xh 2:xj 2:xl 2:xn 2:xp 2:xr 2:y7 1:xu 2:xw 2:xy 2:y0 2:y2 2:y4 2:y6 3:y9 2:yb 2:yd 2:yf 2:yh 2:yj 2:yl 2:yn 2:yp 2:yr 2:yt 2:yv 2:yx 2:yz 2:z1 2:z3 2:z5 2:z7 2:z9 2:zb 2:zd 2:zf 2:zh 2:zj 2:zl 2:zn 2:zp 2:zr 2:zt 2:zv 2:zx 2:zz 2:101 2:103 2:105 2:107 2:109 2:10b 2:10d 2:10f 2:10h 2:10j 2:10l 2:10n 2:10p 2:10r 2:10t 2:10v 3:129 1:12a 1:12b 1:12c 1:12d 1:12e 1:12f 1:12g 1:12h 1:12i 1:12j 1:12k 1:12l 1:12m 1:12n 1:12o 1:12p 1:12q 1:12r 1:12s 1:12t 1:12u 1:12v 1:12w 1:12x 1:12y 1:12z 1:130 1:131 1:132 1:133 1:134 1:135 1:136 1:137 1:138 1:139 1:13a 28a:8w0 1:8w1 1:8w2 1:8w3 1:8w4 1:8w5 1:8w6 1:8w7 1:8w8 1:8w9 1:8wa 1:8wb 1:8wc 1:8wd 1:8we 1:8wf 1:8wg 1:8wh 1:8wi 1:8wj 1:8wk 1:8wl 1:8wm 1:8wn 1:8wo 1:8wp 1:8wq 1:8wr 1:8ws 1:8wt 1:8wu 1:8wv 1:8ww 1:8wx 1:8wy 1:8wz 1:8x0 1:8x1 2:8x3 6:8x9 mj:3xs 1:3xt 1:3xu 1:3xv 1:3xw 1:3xx 1oj:tu 1:tw 1:u6 1:u9 1:ua 1:ua 1:ui 1:v7 1:wuj 1:5my 7:3bk 1:3bl 1:3bm 1:3bn 1:3bo 1:3bp 1:3bq 1:3br 1:3bs 1:3bt 1:3bu 1:3bv 1:3bw 1:3bx 1:3by 1:3bz 1:3c0 1:3c1 1:3c2 1:3c3 1:3c4 1:3c5 1:3c6 1:3c7 1:3c8 1:3c9 1:3ca 1:3cb 1:3cc 1:3cd 1:3ce 1:3cf 1:3cg 1:3ch 1:3ci 1:3cj 1:3ck 1:3cl 1:3cm 1:3cn 1:3co 1:3cp 1:3cq 3:3ct 1:3cu 1:3cv 8x:5xd 2:5xf 2:5xh 2:5xj 2:5xl 2:5xn 2:5xp 2:5xr 2:5xt 2:5xv 2:5xx 2:5xz 2:5y1 2:5y3 2:5y5 2:5y7 2:5y9 2:5yb 2:5yd 2:5yf 2:5yh 2:5yj 2:5yl 2:5yn 2:5yp 2:5yr 2:5yt 2:5yv 2:5yx 2:5yz 2:5z1 2:5z3 2:5z5 2:5z7 2:5z9 2:5zb 2:5zd 2:5zf 2:5zh 2:5zj 2:5zl 2:5zn 2:5zp 2:5zr 2:5zt 2:5zv 2:5zx 2:5zz 2:601 2:603 2:605 2:607 2:609 2:60b 2:60d 2:60f 2:60h 2:60j 2:60l 2:60n 2:60p 2:60r 2:60t 2:60v 2:60x 2:60z 2:611 2:613 2:615 2:617 2:619 2:61b 2:61d 2:61f 2:61h 7:601 3:67 2:61t 2:61v 2:61x 2:61z 2:621 2:623 2:625 2:627 2:629 2:62b 2:62d 2:62f 2:62h 2:62j 2:62l 2:62n 2:62p 2:62r 2:62t 2:62v 2:62x 2:62z 2:631 2:633 2:635 2:637 2:639 2:63b 2:63d 2:63f 2:63h 2:63j 2:63l 2:63n 2:63p 2:63r 2:63t 2:63v 2:63x 2:63z 2:641 2:643 2:645 2:647 2:649 2:64b 2:64d 2:64f a:64g 1:64h 1:64i 1:64j 1:64k 1:64l 1:64m 1:64n 9:64w 1:64x 1:64y 1:64z 1:650 1:651 b:65c 1:65d 1:65e 1:65f 1:65g 1:65h 1:65i 1:65j 9:65s 1:65t 1:65u 1:65v 1:65w 1:65x 1:65y 1:65z 9:668 1:669 1:66a 1:66b 1:66c 1:66d c:66p 2:66r 2:66t 2:66v 9:674 1:675 1:676 1:677 1:678 1:679 1:67a 1:67b p:680 1:681 1:682 1:683 1:684 1:685 1:686 1:687 9:68g 1:68h 1:68i 1:68j 1:68k 1:68l 1:68m 1:68n 9:68w 1:68x 1:68y 1:68z 1:690 1:691 1:692 1:693 9:69c 1:69d 1:67k 1:67l 1:69f 2:qh a:67m 1:67n 1:67o 1:67p 1:69v 7:pc 5:6a8 1:6a9 1:67q 1:67r 8:q8 5:6ao 1:6ap 1:67u 1:67v 1:6at c:67s 1:67t 1:67w 1:67x 1:6b7 8a:qx 4:2z 1:6d 7:6ku 1a:6ls 1:6lt 1:6lu 1:6lv 1:6lw 1:6lx 1:6ly 1:6lz 1:6m0 1:6m1 1:6m2 1:6m3 1:6m4 1:6m5 1:6m6 1:6m7 k:6mc mr:79s 1:79t 1:79u 1:79v 1:79w 1:79x 1:79y 1:79z 1:7a0 1:7a1 1:7a2 1:7a3 1:7a4 1:7a5 1:7a6 1:7a7 1:7a8 1:7a9 1:7aa 1:7ab 1:7ac 1:7ad 1:7ae 1:7af 1:7ag 1:7ah 1f5:8q8 1:8q9 1:8qa 1:8qb 1:8qc 1:8qd 1:8qe 1:8qf 1:8qg 1:8qh 1:8qi 1:8qj 1:8qk 1:8ql 1:8qm 1:8qn 1:8qo 1:8qp 1:8qq 1:8qr 1:8qs 1:8qt 1:8qu 1:8qv 1:8qw 1:8qx 1:8qy 1:8qz 1:8r0 1:8r1 1:8r2 1:8r3 1:8r4 1:8r5 1:8r6 1:8r7 1:8r8 1:8r9 1:8ra 1:8rb 1:8rc 1:8rd 1:8re 1:8rf 1:8rg 1:8rh 1:8ri 1:8rj 1d:8rl 2:h7 1:5tp 1:hp 3:8rs 2:8ru 2:8rw 2:gh 1:hd 1:gg 1:gi 2:8s3 3:8s6 9:fz 1:g0 1:8sh 2:8sj 2:8sl 2:8sn 2:8sp 2:8sr 2:8st 2:8sv 2:8sx 2:8sz 2:8t1 2:8t3 2:8t5 2:8t7 2:8t9 2:8tb 2:8td 2:8tf 2:8th 2:8tj 2:8tl 2:8tn 2:8tp 2:8tr 2:8tt 2:8tv 2:8tx 2:8tz 2:8u1 2:8u3 2:8u5 2:8u7 2:8u9 2:8ub 2:8ud 2:8uf 2:8uh 2:8uj 2:8ul 2:8un 2:8up 2:8ur 2:8ut 2:8uv 2:8ux 2:8uz 2:8v1 2:8v3 2:8v5 2:8v7 9:8vg 2:8vi 5:8vn nym:wu9 2:wub 2:wud 2:wuf 2:wuh 2:wuj 2:wul 2:wun 2:wup 2:wur 2:wut 2:wuv 2:wux 2:wuz 2:wv1 2:wv3 2:wv5 2:wv7 2:wv9 2:wvb 2:wvd 2:wvf 2:wvh k:ww1 2:ww3 2:ww5 2:ww7 2:ww9 2:wwb 2:wwd 2:wwf 2:wwh 2:wwj 2:wwl 2:wwn 2:wwp 2:wwr 3s:x0j 2:x0l 2:x0n 2:x0p 2:x0r 2:x0t 2:x0v 4:x0z 2:x11 2:x13 2:x15 2:x17 2:x19 2:x1b 2:x1d 2:x1f 2:x1h 2:x1j 2:x1l 2:x1n 2:x1p 2:x1r 2:x1t 2:x1v 2:x1x 2:x1z 2:x21 2:x23 2:x25 2:x27 2:x29 2:x2b 2:x2d 2:x2f 2:x2h 2:x2j 2:x2l 2:x2n b:x2y 2:x30 2:5tl 1:x33 2:x35 2:x37 2:x39 2:x3b 5:x3g 2:h1 3:x3l 2:x3n 4:x3r 2:x3t 2:x3v 2:x3x 2:x3z 2:x41 2:x43 2:x45 2:x47 2:x49 2:h2 1:gs 1:gx 1:h8 1:h6 2:im 1:hz 1:il 1:xub 1:x4l 2:x4n 2:x4p 2:x4r 2:x4t 2:x4v 2:x4x 2:x4z 2:x3o 1:hu 1:5u6 1:x54 2:x56 2:h0 1:x59 4:x5d 6:x5j 2:x5l 2:x5n 2:bf p:x6e or:3vk 1:3vl 1:3vm 1:3vn 1:3vo 1:3vp 1:3vq 1:3vr 1:3vs 1:3vt 1:3vu 1:3vv 1:3vw 1:3vx 1:3vy 1:3vz 1:3w0 1:3w1 1:3w2 1:3w3 1:3w4 1:3w5 1:3w6 1:3w7 1:3w8 1:3w9 1:3wa 1:3wb 1:3wc 1:3wd 1:3we 1:3wf 1:3wg 1:3wh 1:3wi 1:3wj 1:3wk 1:3wl 1:3wm 1:3wn 1:3wo 1:3wp 1:3wq 1:3wr 1:3ws 1:3wt 1:3wu 1:3wv 1:3ww 1:3wx 1:3wy 1:3wz 1:3x0 1:3x1 1:3x2 1:3x3 1:3x4 1:3x5 1:3x6 1:3x7 1:3x8 1:3x9 1:3xa 1:3xb 1:3xc 1:3xd 1:3xe 1:3xf 1:3xg 1:3xh 1:3xi 1:3xj 1:3xk 1:3xl 1:3xm 1:3xn 1:3xo 1:3xp 1:3xq 1:3xr fnr:1dl1 t7:1ef5 1:1ef6 1:1ef7 1:1ef8 1:1ef9 1:1efa 1:1efb 1:1efc 1:1efd 1:1efe 1:1eff 1:1efg 1:1efh 1:1efi 1:1efj 1:1efk 1:1efl 1:1efm 1:1efn 1:1efo 1:1efp 1:1efq 1:1efr 1:1efs 1:1eft 1:1efu xy:1fe0 1:1fe1 1:1fe2 1:1fe3 1:1fe4 1:1fe5 1:1fe6 1:1fe7 1:1fe8 1:1fe9 1:1fea 1:1feb 1:1fec 1:1fed 1:1fee 1:1fef 1:1feg 1:1feh 1:1fei 1:1fej 1:1fek 1:1fel 1:1fem 1:1fen 1:1feo 1:1fep 1:1feq 1:1fer 1:1fes 1:1fet 1:1feu 1:1fev 1:1few 1:1fex 1:1fey 1:1fez 1:1ff0 1:1ff1 1:1ff2 1:1ff3 3t:1fiw 1:1fix 1:1fiy 1:1fiz 1:1fj0 1:1fj1 1:1fj2 1:1fj3 1:1fj4 1:1fj5 1:1fj6 1:1fj7 1:1fj8 1:1fj9 1:1fja 1:1fjb 1:1fjc 1:1fjd 1:1fje 1:1fjf 1:1fjg 1:1fjh 1:1fji 1:1fjj 1:1fjk 1:1fjl 1:1fjm 1:1fjn 1:1fjo 1:1fjp 1:1fjq 1:1fjr 1:1fjs 1:1fjt 1:1fju 1:1fjv 4d:1fo7 1:1fo8 1:1fo9 1:1foa 1:1fob 1:1foc 1:1fod 1:1foe 1:1fof 1:1fog 1:1foh 2:1foj 1:1fok 1:1fol 1:1fom 1:1fon 1:1foo 1:1fop 1:1foq 1:1for 1:1fos 1:1fot 1:1fou 1:1fov 1:1fow 1:1fox 2:1foz 1:1fp0 1:1fp1 1:1fp2 1:1fp3 1:1fp4 1:1fp5 2:1fp7 1:1fp8 1d7:1h34 1:1h35 1:1h36 1:1h37 1:1h38 1:1h39 1:1h3a 1:1h3b 1:1h3c 1:1h3d 1:1h3e 1:1h3f 1:1h3g 1:1h3h 1:1h3i 1:1h3j 1:1h3k 1:1h3l 1:1h3m 1:1h3n 1:1h3o 1:1h3p 1:1h3q 1:1h3r 1:1h3s 1:1h3t 1:1h3u 1:1h3v 1:1h3w 1:1h3x 1:1h3y 1:1h3z 1:1h40 1:1h41 1:1h42 1:1h43 1:1h44 1:1h45 1:1h46 1:1h47 1:1h48 1:1h49 1:1h4a 1:1h4b 1:1h4c 1:1h4d 1:1h4e 1:1h4f 1:1h4g 1:1h4h 1:1h4i 4e:1h80 1:1h81 1:1h82 1:1h83 1:1h84 1:1h85 1:1h86 1:1h87 1:1h88 1:1h89 1:1h8a 1:1h8b 1:1h8c 1:1h8d 1:1h8e 1:1h8f 1:1h8g 1:1h8h 1:1h8i 1:1h8j 1:1h8k 1:1h8l 27v:1jgg 1:1jgh 1:1jgi 1:1jgj 1:1jgk 1:1jgl 1:1jgm 1:1jgn 1:1jgo 1:1jgp 1:1jgq 1:1jgr 1:1jgs 1:1jgt 1:1jgu 1:1jgv 1:1jgw 1:1jgx 1:1jgy 1:1jgz 1:1jh0 1:1jh1 1:1jh2 1:1jh3 1:1jh4 1:1jh5 1:1jh6 1:1jh7 1:1jh8 1:1jh9 1:1jha 1:1jhb gw1:20dc 1:20dd 1:20de 1:20df 1:20dg 1:20dh 1:20di 1:20dj 1:20dk 1:20dl 1:20dm 1:20dn 1:20do 1:20dp 1:20dq 1:20dr 1:20ds 1:20dt 1:20du 1:20dv 1:20dw 1:20dx 1:20dy 1:20dz 1:20e0 1:20e1 1:20e2 1:20e3 1:20e4 1:20e5 1:20e6 1:20e7 o81:2oma 1:2omb 1:2omc 1:2omd 1:2ome 1:2omf 1:2omg 1:2omh 1:2omi 1:2omj 1:2omk 1:2oml 1:2omm 1:2omn 1:2omo 1:2omp 1:2omq 1:2omr 1:2oms 1:2omt 1:2omu 1:2omv 1:2omw 1:2omx 1:2omy 1:2omz 1:2on0 1:2on1 1:2on2 1:2on3 1:2on4 1:2on5 1:2on6 1:2on7"

end BlockProgram.Unicode.Tables
