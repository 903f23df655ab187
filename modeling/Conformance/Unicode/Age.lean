/-!
# Ages

The code points assigned in each version of Unicode, from 1.1 to 16.0, in order of the
versions; a version's table holds only what that version added.

Each table is a text in the compact form that `Ranges.ofCompact` reads: the ranges in
ascending order, each written as the gap from the end of the previous range (from 0 for
the first) and, after `+`, its length less one, both in base 31 with the digits `0`–`9`
and the consonants `b`–`z`.
-/

namespace Conformance

namespace Unicode

/-- Each version with the code points it assigned, oldest first. -/
def ageTables : List (String × String) := [
  ("V1_1",
    String.join [
      "0+j5,4+y,1t+2v,7+1h,1+9,q+27,v+1,l+1,4,3,5+6,1,1+m,1+1d,1+6,3,1,1,1,1+k,f+c,1+23,1+c,1+1",
      "9,9+1p,2+1,2+1,3+w,2+7,2+1,1s+16,2+6,1+17,1,17+9,1+8,d+v,5+4,r,g,3,1+t,5+l,f+f,2+29,2+4,",
      "1+g,1+y,2+9,jr+2,1+1p,2+k,2+4,3+s,j+2,1+7,2+1,2+p,1+6,1,3+3,2,1+6,2+1,2+2,9,4+1,1+4,2+n,",
      "7,2+5,4+1,2+p,1+6,1+1,1+1,1+1,2,1+4,4+1,2+2,c+3,1,7+g,d+2,1+6,1,1+2,1+p,1+6,1+1,1+4,2+9,",
      "1+2,1+2,2,h,5+9,k+2,1+7,2+1,2+p,1+6,1+1,2+3,2+7,3+1,2+2,8+1,4+1,1+2,4+b,k+1,1+5,3+2,1+3,",
      "3+1,1,1+1,3+1,3+2,3+7,1+2,4+4,3+2,1+3,9,h+c,g+2,1+7,1+2,1+q,1+9,1+4,4+6,1+2,1+3,7+1,9+1,",
      "4+9,l+1,1+7,1+2,1+q,1+9,1+4,4+6,1+2,1+3,7+1,7,1+1,4+9,l+1,1+7,1+2,1+q,1+h,4+5,2+2,1+3,9,",
      "8+1,4+9,4p+1v,4+x,16+1,1,2+1,1,2,6+3,1+6,1+2,1,1,2+1,1+d,1+2,2+4,1,1+5,2+9,2+1,gj+16,b+1",
      "7,4,4+2w,5+25,5+2m,369+4z,5+2w,6+p,2+5,2+16,2+5,2+7,1,1,1,1+z,2+1p,1+g,1+f,2+5,1+l,2+2,1",
      "+8,1+1h,1+q,14+6,3+v,k+b,16+k,z+1t,v+1j,f+2x,p+7s,g,1+3w,49+15,w+b,p+4g,p+4t,b+2k,j+m,6+",
      "2r,4p+3,1+3,2+w,1+13,1,1+3,3,1+6,2+6,g+z,3+r,1+f,265+1s,7,1+2p,4+5,2+30,6+18,4+30,1+h,33",
      "+x,3+14,x+w,3+1l,h+c,4+1h,1+3t,4+35,2+z,6xr+pr7,k4f+6z5,6s+6,d+4,6+s,1+4,1,1+1,1+1,1+3g,",
      "12+cr,j+21,2+1q,19+c,15+3,d+n,4+9,1+l,1+3,4+2,1,1+4b,2,1+30,2+30,3+5,2+5,2+5,2+2,3+6,1+6",
      ",g+2"]),
  ("V2_0",
    String.join [
      "1gz+j,1+d,n,2g7+29,1+11,7+v,4+5,1,1+n,3+6,1,3yw,k0,163l+cmc,2jy9+1,2660+1,2660+1,2660+1,",
      "2660+1,2660+1,2660+1,2660+1,2660+1,2660+1,2660+1,2660+1,2660+1,2660+4dd5"]),
  ("V2_1",
    "8pt,1xh3"),
  ("V3_0",
    String.join [
      "j6+3,z+7,2+k,3s+4,1l,b+4,2t+8,m,3r,3,1,1,1,z,d,24,d,1c+1,2+3,2z+1,51,6g+2,35+1,5,h,1c+4,",
      "1+f,1+y,3+v,1q+1k,1k1+1,1+k,3+r,1+8,1,2+6,3,4+5,1,1+7,l+2,d1,1d,r+2,7,1+2,1+g,2,1k+12,1+",
      "4,1+1,1+6,3+3,6+t,fm+6,1+20,1,1+3,2+6,1,1+3,2+17,1,1+3,2+z,1,1+3,2+6,1,1+3,2+6,1+6,1+q,1",
      "+z,1,1+3,2+6,1+17,1+l,6+w,14+2q,d+n9,9+x,3+2l,4m+2z,3+9,q+g,1+9,6+2t,8+1b,203,s+5,32+2,1",
      "m+1,2r+1,2b,3b+8,8p,3x,1+y,4g+1,gr+7,12,2s+1,dv+87,1gf+t,1+2v,d+6w,v+c,1y+2,3,cd+r,lv+6v",
      "9,pxk+16k,3+k,2+h,1+c,1+2,1,qzz,193+2"]),
  ("V3_1",
    String.join [
      "11n+1,24k9+10,1bt+z,1+3,d+v,5v+16,2+16,1r84+7x,b+17,3+5s,km+2q,1+28,1+1,2,2+1,2+3,1+c,1,",
      "1+3,1+1,1+22,1+3,2+7,1+6,1+w,1+3,1+4,1,3+6,1+bw,4+9b,4+1l,bnb+1ffr,pm7+kg,s7qb,z+32"]),
  ("V3_2",
    String.join [
      "kk,9r,m+d,3c+1,x,4r+1,1v+1,2+1,2+1,1l+h,c9+1,bc,2gk+1,1ls+d,1+6,c+q,9+m,d+d,1+2,1+1,2bw,",
      "6+4,4,7+4,f,20+1,1m+6,2n+g,5f+c,7t+f,40,z+1n,95+m,4w+9,2v+7,q+1,2x+c,2+9,75+f,2x+w,4+h,8",
      "8+jh,1d6+2,2t+1,8+1,31,7r+h,2m+g,2m+g,zbg+1,j,d,3,qrc+1w,yg,3+h,1q+1,1f,7l+1"]),
  ("V4_0",
    String.join [
      "kl,l+2,3v+1,21+j,2l+7,5+2,4w+4,jn+3,9+8,22+2,4t+1,h,1g+2,y+2,g2,5y,25,1,4d,2q+2,f,25,1x,",
      "45+7,67+1,2yv,l+9,8g+x,3+c,4+c,4,3+1b,2+4,3g+10,ss+3g,rz+1,7f,p8+1,9r,8x+1,3r+7,g+1,152+",
      "f,1w9+1,1l,1d+1,2j+3,5d+3,36+1,10,6vn+21,1hwb,2c+1,g5+c,1+t,1+l,1+1,1+g,2+f,13+3y,5+2,4+",
      "1f,3+8,ll+y,1,4b+1,17+2k,2+9,wk+5,2,1+1d,1+1,3,2,1r0b+2s,cp,vs44+7q"]),
  ("V4_1",
    String.join [
      "l9+b,8z+4,54+3,7y+1,5h,13+2,25,l,1w+5,7s+y,k0,2l,hq,1j,119+1,9j+1,1,8l,21,21,18,10,10,10",
      ",h,18,r+1,10+t,1kq+1b,6+t,6+9,4+1,11+w,2+1,w7+2t,p6+1,1+6,1l+4,y+3,1q,2l,h,ns+b,lg,38+1,",
      "l+b,5+h,8q+6,w2+5,7m+1h,1+1h,12+3f,g+1f,b+1q,9,j+q,9+6,1+6,1+6,1+6,1+6,1+6,1+6,1+6,12+r,",
      "4+1,z0+h,5m,y2d+p,1y0+q,7j+1d,pxc+3d,vj+9,v0+2d,k6+14,4+f,1mx+3,1+1,5+7,1+2,1+v,4+2,4+8,",
      "8+8,1q5r+27,152+1"]),
  ("V5_0",
    String.join [
      "ln+f,9n+2,bw,1c+5,j+3,5c,jp+1w,dd+1,1+1,wy+1,f+1,3r1+2f,4+1f,lt+6,1n+1,s4+3,30+1,1q,mb+c",
      ",r1,8x+3,w4+6,5+3,b6+d,7+3,11nm+3,5+1,97+1s,tq5+t,5,62x+xb,4p+35,f+3,1hlj+k,14w+1"]),
  ("V5_1",
    String.join [
      "xd+3,2+1,2t,5x,4j+h,79+4,c+4,11+4,9r+k,j1+1,75,14,6n,y+1,3h,3h,v+1,8+1,n+7,63,6,y+1,d+5,",
      "3+6,hv+1,34,3+2,2h,5,2,7+2,4+5,v+21,4+1,24d,rd+1c,3+c,28+1s,3+g,3+1m,bp+w,5v+3,2x+5,ch,4",
      "h,31,1q+3,1by,p+9,3+3,8j,10+3,v5+4,4+19,3+4,91+2,1+2,4+5,cf+10,s+3,2+l,sn,57+m,y83+7,1d7",
      "+9n,n+10,2+k,8+w,47+4,2+3f,3k+4,44+26,9+c,17+2p,c,55+1r,9+f,2+9,2+3,q9r+2,x5+c,1p+1g,46+",
      "x,3+1k,1p3+t,5,1q7w,86n+1d,4+36"]),
  ("V5_2",
    String.join [
      "1cg+1,rk+1g,2+g,67,2h,6,14+1,44,1k9+3,67+3,62+4,26+4,2n+5,jj,nb+8,l2+27,5t+1,1h,27+20,1+",
      "x,2+b,6+9,6+f,km+13,8l,qg+2,4w+2,1r,mk,qc+1,y+2,4+9,1+l,1,4+r,2t,11y+4,8z,f+1,3g+6,b9,12",
      "m+c,y4w+7,1bf+1j,ff+2t,b2+9,5c+w,37+x,3+2h,1+b,4+1,44+w,4+24,s+4,77+1g,2+9,cmz+q,4+1k,95",
      "c+2,3p4+p,1+8,60+1,bg+10,44+1q,3+x,2+v,5+7,44+2b,k8+z,jk+23,8b0+13j,1m98+b,5+z,2,c,1,2,3",
      ",3+4,8,7,t,1+1,2,b+3,2,3l,h+12,g+8,1k4c+49t"]),
  ("V6_0",
    String.join [
      "1cj+1,80,20,hh+w,2,72+1,m,6+1,w+4,jb+5,fz,j,m,lh+3,2c+1,xz+1,276+1n,8+3,jd,pf+7,x,v9+b,r",
      "k,m,1+3,y,4+1,x,14,1,4+2,9+1,1p+2,s,g,g+1,1hg,g,13v+2,1028+1,9n+1,1+1,g+9,2l,sz+5,2+5,2+",
      "5,9+6,1+6,pfw+h,5d5+2h,4+y,rb3+lb,ll7+1,k6m+g,2+f,2+g,1+g,2l,1+b,1,1+1,1+2,1+2,5+7,1+6,1",
      "+9,6+8,1,2+1,1+9,4+1,1+9,2f+t,1+1,1j+8,p+1,5m+11,h+5,1+27,3+m,d+15,1+4,p+j,h+20,1,1+5v,1",
      "+3,3+1z,l+r,4r+4,1+h,1+2,1,1,1,1+2,1+5,2+3,1,2+3,1+c,4+b,1k+27,1w+3q,1n2w+74"]),
  ("V6_1",
    String.join [
      "1gx,3r,pj,1+b,1s+v,j1,11f+1,hq,5,1j+2,2v3+2,d+5,88+7,1d+3,2wf,1,1cg+1,1n,5,1t+1,6j+9,z7t",
      ",1ry+7,14,7t+1,q,2h+1,ry+q,p35+1,42g+1s,6+1,1wb+s,7+9,6+1p,1+f,1y+2b,7+9,17d+1s,8+9,rhg+",
      "26,c+1h,j+j,12nm+3,1+v,1+1,1,2,1+9,1+3,1,1,6,4,1,1,1+2,1+1,1,2,1,1,1,1,1+1,1,2+3,1+6,1+3",
      ",1+3,1,1+9,1+j,5+2,1+4,1+j,1p+1,nd+1,10m+3,62,j,3,1,1,1,3,6+1,4,1+1,4"]),
  ("V6_2",
    "8q8"),
  ("V6_3",
    "1mg,702+3"),
  ("V7_0",
    String.join [
      "xw,fp+7,30+1,3t,pj,c+5,2g,3w,7,nm,1n,2g,43,7c+9,2dc+7,kp+1,dy+g,lc+1,7n+g,qw+2,vj+6,sy,1",
      "4h+2,b+t,2+10,2+12,3+c,1+7,my+6,111q+5,7y+c,c+2,2+1,27,hr+z,41+3,5p+1j,4+1,q1d+6,ws+1,m,",
      "b9+w,14,1k+1c,dk+18,8+1n,c,4n+b0,9+p,b+7,80+20,8+8,gz+10,11+17,4+c,4f+k,7+3,d+6,18q,6q+1",
      "7,2s,d,6+m,c+k,1+1c,3p+1w,5+9,7+2,1+7,2+1,2+p,1+6,1+1,1+4,2+8,2+1,2+2,9,5+6,2+6,3+4,8m+2",
      "9,8+9,5c+1q,2+k,1r+26,c+9,ls+2n,d,gg+1t,27w+1b,6j+c,5,llc+z,1+9,4+1,33+y,2+5,b+27,b+9,1+",
      "6,1+n,5+l,pf8+3f,5+d,3+8,7+9,2+7,ck2+6b,2+h,239,11+p,p+1,k5+c,9,28,q+c,16,5+3,5+c,k+6,29",
      ",1,5w,4+1,21+1,4+6,y+k,1+19,1+2r,28+1,f+1j,28+9,j+d,3+3,4j+2q,1d+c,4+1s,8+9,6+18,8+y"]),
  ("V8_0",
    String.join [
      "29v+1,1h,k6,cc,8d,1rc,2+5,3d9,6k+1,2rp+3,zvt+8,1t0,7r,13+5,bg+1,mp+3,d+2k,pyq+1,2v8+l,1+",
      "1,5+4,62+1,2+h,2+1g,nn+1m,f+1m,7+5,18j+3,g+4,55+6,1,1+3,1+g,1+b,2s,2k,nf+m,9c+t,3+g,4+h,",
      "38z,7f+69,85t+ls,165r+b,1m9+p0,h+4,1+g,6j7+2,2j+1,2k+4,15+7,87,2f+4,7v+1,4h,lk+8,3b+4,1x",
      ",1mq3+5zv"]),
  ("V9_0",
    String.join [
      "29y+7,q+g,yv,6n,4+2,1+6,r+2,403+8,cy,1lj+3,2qs+1,11bm,8z,rn4+1,tv+14,4+14,3jh,gh+2w,1,1,",
      "jl+d,1h1+8,1+1f,1+f,b+x,3+10,2+p,1+f,q4r,10+6ck,m+sb,qnc+6,1+j,2+6,1+1,1+4,2by+2d,5+9,4+",
      "1,25z+k,4l,vs,1b,9p+1,12+2,km+5,1+7,8,2+c,1+c,4+g,17+d"]),
  ("V10_0",
    String.join [
      "275+b,dy+1,84+5,jj,1w+1,45w,86+3,qw,vt,22l,n6+4,rw,ygs+n,vfp+2,62d+29,8+1n,2+q,1+4,mj+6,",
      "1+1,1+1d,3,1+1,1+8,8+9,pzj,k2k+95,2m+dr,jwh+5,15k+1,13+1,jr+c,m,8+7,1+1,t,l+d,17+5,1t+q,",
      "1tp6+7s1"]),
  ("V11_0",
    String.join [
      "1fd,18,39,jy+2,6t,9m,3v,dt,43,35p,12s+1c,2+2,3zp+2,q+s,4+g,ly+4,rr,yhf+4,21z,8+1,bg+1,tw",
      "q+1,l,qf+18,8+9,gn+18,8+1b,cz,3t+2,j4,9c,qk,7d+1x,mn,qs+5,1+1,1+15,1+1,1+5,7+9,b0+s,p3p+",
      "2x,6r3+4,mys+m,42+6,6n6+25,15z,1js,72+3,d0+2,x+4,2+3,3,1+3,s+b,f+9,7+1,15+s,33+f"]),
  ("V12_0",
    String.join [
      "39y,jz,2,2,1+5,4,7,7+1,2,f,3sn,3y8,1q,m2,11bn+5,2+4,yx+1,vrp+q,15d,mc,rz+7,2+1g,2+b,54+1",
      ",1d5+1l,f,5cq+8,hqm+5,4,1j+8,2x+1,6dn+5,c0f+2,k+3,dp1+1f,3+f,2+9,4+1,cw+1v,5,1nz,zm+1y,1",
      "3j,1fn,15,7d+c,9b+2,1j,1l,9,1b+5,3+1,b+5,3+7,2+2,1k+2p,x+3,4+2,5+2,f+5"]),
  ("V12_1",
    "fl4"),
  ("V13_0",
    String.join [
      "2b6+9,p2,fw,40,3jb+1,4h1,qg+2,x4+4,7fx+9,pwq+d,22b+3,1c+1,1q,vp+3,qyr,3ff+1b,1+2,2+1,86+",
      "w,d7,4b+1,nz,5+1,174+6,2,2+7,1+1,1+y,1+1,2+c,9+9,1pb,pc9,c+1,760+hk,1c+8,vmy+2,30+2,1z,1",
      "cl+1,14+1,g1+1,2x,38,4+1,1c+1,6+2,y,5f,g+3,h+l,7+6,9+2,f+6,1b+4q,1+1r,16+9,1gj0+6,rr2+54",
      "9"]),
  ("V14_0",
    String.join [
      "1mh,m5+z,1+1,6+7,p,l+b,x5,11,43,2q3,7,9,7q,q7+f,41,1k+1,nh,qw,31d,1j,j3+b,z89+2,220+1,g+",
      "1,1,1+4,s+2,qb1,d9+h,43,1h+1,1zf+b,1+g,1+6,1+1,1+b,1+g,1+6,1+1,gk+5,1+1b,1+8,21n+t,7f+5,",
      "2g,1l7,4b+6,x5+h,5jw+35,hl0+2j,1+9,lf1+3,1+6,1+1,99+3,7ym+1g,2+q,9+3q,kq+1,3h1+z,xf+z,1c",
      "w+6,1+3,1+1,1+g,3ys+2,8s,dn,2n,5m+1,1f+3,b+3,8+2,k+2,6+7,8+6,1gsl+1,4bw+3"]),
  ("V15_0",
    String.join [
      "3fy,h9,267k+2,vt+2,2b6+9,11q+j,1+19,3+w,5k1,9+x,1283,13,8wy+m,38q+5,8f+1z,12,143+1b,4rp,",
      "4w+2,4+4,2w,pj+2,h+1,15+2,c+2,1,g+1,b+1,d,g+1,1m4l,sjg+4c6"]),
  ("V15_1",
    "ds8+3,hz,5zy4+n1"),
  ("V16_0",
    String.join [
      "28y,4zj+1,1j,8k+1,20v+2,3nc+1,10dl+2,d+2,t0b+1n,1y8+16,3+x,8+1,9w+2,1s,168+9,1,2,1+16,1+",
      "9,1,2,1+3,1+9,1+1,8+1,s5+m,194+12,g+9,ww,5ll+44v,7qn+1v,369+1v,8d9,js8+81,6+g1,64v+1c,4,",
      "4zd+9,4+1,gp,5,1h,7,p,2,9,78+15"])]

end Unicode

end Conformance
