/-!
# General categories

The code points of each two-letter general category of Unicode 16.0.  Surrogates are
no characters, so the surrogate category `Cs` has no table, and `Cn` holds every other
code point that no category names.

Each table is a text in the compact form that `Ranges.ofCompact` reads: the ranges in
ascending order, each written as the gap from the end of the previous range (from 0 for
the first) and, after `+`, its length less one, both in base 31 with the digits `0`–`9`
and the consonants `b`–`z`.
-/

namespace Conformance

namespace Unicode

/-- Each two-letter general category with its code points. -/
def categoryTables : List (String × String) := [
  ("Lu",
    String.join [
      "23+t,38+q,1+6,12,1,1,1,1,1,1,1,1,1,1,1,1,1,1,1,1,1,1,1,1,1,1,1,1,1,1,1,2,1,1,1,1,1,1,1,2",
      ",1,1,1,1,1,1,1,1,1,1,1,1,1,1,1,1,1,1,1,1,1,1,1+1,1,1,3+1,1,1+1,1+2,2+3,1+1,1+2,3+1,1+1,1",
      ",1,1+1,1,2,1+1,1+2,1,1+1,3,7,2,2,2,1,1,1,1,1,1,1,2,1,1,1,1,1,1,1,1,2,2,1+2,1,1,1,1,1,1,1",
      ",1,1,1,1,1,1,1,1,1,1,1,1,1,1,1,1,1,1,1,1,1,1,7+1,1+1,2,1+3,1,1,1,1,9b,1,3,8,6,1+2,1,1+1,",
      "1+j,1+8,14,2+2,3,1,1,1,1,1,1,1,1,1,1,1,5,2,1+1,2+1m,1k,1,1,1,1,1,1,1,1,1,1,1,1,1,1,1,1,9",
      ",1,1,1,1,1,1,1,1,1,1,1,1,1,1,1,1,1,1,1,1,1,1,1,1,1,1,1+1,1,1,1,1,1,1,2,1,1,1,1,1,1,1,1,1",
      ",1,1,1,1,1,1,1,1,1,1,1,1,1,1,1,1,1,1,1,1,1,1,1,1,1,1,1,1,1,1,1,1,1,1,1,1,1,1,2+16,306+16",
      ",1,5,r9+2r,28t,6+1c,2+2,bb,1,1,1,1,1,1,1,1,1,1,1,1,1,1,1,1,1,1,1,1,1,1,1,1,1,1,1,1,1,1,1",
      ",1,1,1,1,1,1,1,1,1,1,1,1,1,1,1,1,1,1,1,1,1,1,1,1,1,1,1,1,1,1,1,1,1,1,1,1,1,1,1,1,1,1,1,9",
      ",1,1,1,1,1,1,1,1,1,1,1,1,1,1,1,1,1,1,1,1,1,1,1,1,1,1,1,1,1,1,1,1,1,1,1,1,1,1,1,1,1,1,1,1",
      ",1,1,1,1,9+7,8+5,b+7,8+7,8+5,c,1,1,1,8+7,2b+3,d+3,d+3,d+4,c+3,8g,4,3+2,2+2,2,3+4,6,1,1,1",
      "+3,2+3,b+1,5,1z,2sl+1j,1k,1+2,2,1,1,1+3,1,2,8+2,1,1,1,1,1,1,1,1,1,1,1,1,1,1,1,1,1,1,1,1,",
      "1,1,1,1,1,1,1,1,1,1,1,1,1,1,1,1,1,1,1,1,1,1,1,1,1,1,1,1,1,8,1,4,119q,1,1,1,1,1,1,1,1,1,1",
      ",1,1,1,1,1,1,1,1,1,1,1,1,m,1,1,1,1,1,1,1,1,1,1,1,1,1,4c,1,1,1,1,1,1,3,1,1,1,1,1,1,1,1,1,",
      "1,1,1,1,1,1,1,1,1,1,1,1,1,1,1,1,1,1,1,1,1,b,1,1+1,1,1,1,1,4,1,2,1,3,1,1,1,1,1,1,1,1,1,1+",
      "4,1+4,1,1,1,1,1,1,1,1+3,1,1+1,3,5,1,1,1,s,r6v+t,18d+18,4d+14,51+b,1+g,1+6,1+1,1v3+1m,52+",
      "p,2zq+10,qs2+10,w27+t,v+t,v+t,v,1+1,2,2+1,2+3,1+7,v+t,v+1,1+3,2+7,1+6,w+1,1+3,1+4,1,3+6,",
      "w+t,v+t,v+t,v+t,v+t,v+t,z+s,12+s,12+s,12+s,12+s,12,4l3+12"]),
  ("Ll",
    String.join [
      "34+t,1w,1b+r,1+7,1,1,1,1,1,1,1,1,1,1,1,1,1,1,1,1,1,1,1,1,1,1,1,1,1,1,1,1+1,1,1,1,1,1,1,1",
      ",1+1,1,1,1,1,1,1,1,1,1,1,1,1,1,1,1,1,1,1,1,1,1,1,1,2,1,1+2,2,1,2,3+1,4,2,3+2,2,2,1,1,2,1",
      "+1,1,2,3,1,2+1,2+2,6,2,2,1,1,1,1,1,1,1,1+1,1,1,1,1,1,1,1,1,1+1,2,1,3,1,1,1,1,1,1,1,1,1,1",
      ",1,1,1,1,1,1,1,1,1,1,1,1,1,1,1,1,1,1,1+6,2,2+1,1,4,1,1,1,1+26,1+v,67,1,3,3+2,l,w+13,1+1,",
      "3+2,1,1,1,1,1,1,1,1,1,1,1,1+4,1,2,2+1,1n+1j,1,1,1,1,1,1,1,1,1,1,1,1,1,1,1,1,1,9,1,1,1,1,",
      "1,1,1,1,1,1,1,1,1,1,1,1,1,1,1,1,1,1,1,1,1,1,2,1,1,1,1,1,1+1,1,1,1,1,1,1,1,1,1,1,1,1,1,1,",
      "1,1,1,1,1,1,1,1,1,1,1,1,1,1,1,1,1,1,1,1,1,1,1,1,1,1,1,1,1,1,1,1,1,1,1k+19,304+1c,2+2,sj+",
      "5,288+8,1,3s+1d,21+d,1+12,39,1,1,1,1,1,1,1,1,1,1,1,1,1,1,1,1,1,1,1,1,1,1,1,1,1,1,1,1,1,1",
      ",1,1,1,1,1,1,1,1,1,1,1,1,1,1,1,1,1,1,1,1,1,1,1,1,1,1,1,1,1,1,1,1,1,1,1,1,1,1,1,1,1,1,1,1",
      "+8,1,1,1,1,1,1,1,1,1,1,1,1,1,1,1,1,1,1,1,1,1,1,1,1,1,1,1,1,1,1,1,1,1,1,1,1,1,1,1,1,1,1,1",
      ",1,1,1,1,1,1+8,8+5,b+7,8+7,8+5,b+7,8+7,8+f,2+7,8+7,8+7,8+4,1+1,6,3+2,1+1,8+3,2+1,8+7,b+2",
      ",1+1,8v,3+1,3,w,4,4,2+1,8+3,4,1q,2v3+1j,1,3+1,1,1,1,4,1+1,1+5,5,1,1,1,1,1,1,1,1,1,1,1,1,",
      "1,1,1,1,1,1,1,1,1,1,1,1,1,1,1,1,1,1,1,1,1,1,1,1,1,1,1,1,1,1,1,1,1,1,1,1,1+1,7,1,4,d+16,1",
      ",5,117v,1,1,1,1,1,1,1,1,1,1,1,1,1,1,1,1,1,1,1,1,1,1,m,1,1,1,1,1,1,1,1,1,1,1,1,1,4c,1,1,1",
      ",1,1,1+2,1,1,1,1,1,1,1,1,1,1,1,1,1,1,1,1,1,1,1,1,1,1,1,1,1,1,1,1,1,1,1,1+7,1,1,2,1,1,1,1",
      ",4,1,2,1+2,1,1,1,1,1,1,1,1,1,1,5,5,1,1,1,1,1,1,1,4,1,2,3,1,1,1,1,1,v,3,vh+1c,5+8,7+2k,p3",
      "g+6,d+4,13c+t,18n+18,4d+14,50+b,1+g,1+6,1+1,1vx+1m,41+p,2zq+10,qs2+10,w21+t,v+6,1+k,v+t,",
      "v+3,1,1+6,1+b,v+t,v+t,v+t,v+t,v+t,v+t,v+t,v+t,v+w,x+s,1+5,v+s,1+5,v+s,1+5,v+s,1+5,v+s,1+",
      "5,1,1xh+9,1+m,6+5,2n9+12"]),
  ("Lt",
    "gm,2,2,17,7w9+7,8+7,8+7,d,h,1j"),
  ("Lm",
    String.join [
      "q6+k,4+c,g+4,7,1,49,5,hf,7f,59+1,8p+1,4,10,9,3,55,5d,18w,43,l7,1tl,3g,mq,gz+5,5m+20,f,13",
      "+15,q7,f,j+d,351+1,7s,65,h4,1d+4,5,34+1,30+2,ylc,19b+5,8q,3p,x+1,3x+8,2l,r,3d+2,3+1,h4,q",
      ",4f,3h,p+1,3b+3,9,qcw,1g+1,231+5,1+1b,1+8,1h1,11,szq+3,jd+2,19+1,kr+d,22+1,1,k1x+3,1+6,1",
      "+1,dtz+1z,6h+6,zc,153"]),
  ("Lo",
    String.join [
      "5h,h,88,4+3,6q,vp+v,4+3,1g+10,1+9,14+1,1+35,1,s+1,b+2,2,j,1+y,y+2v,c,s+11,p+p,1c+s,7+b,5",
      "+r,1+5,k+19,1x+1q,3,l,7+9,j+g,4+7,2+1,2+p,1+6,1,3+3,3,j,f+1,1+2,g+1,b,8+5,4+1,2+p,1+6,1+",
      "1,1+1,1+1,10+3,1,m+2,j+8,1+2,1+p,1+6,1+1,1+4,3,l,h+1,r,c+7,2+1,2+p,1+6,1+1,1+4,3,z+1,1+2",
      ",h,k,1+5,3+2,1+3,3+1,1,1+1,3+1,3+2,3+c,q,1p+7,1+2,1+q,1+h,3,v+2,2,2+1,z,4+7,1+2,1+q,1+9,",
      "1+4,3,10+1,1+1,h+1,k+8,1+2,1+19,2,j,5+2,8+2,s+5,5+k,3+r,1+8,1,2+6,1w+1j,1+1,d+5,1x+1,1,1",
      "+4,1+r,1,1+9,1+1,9,2+4,r+3,11,21+7,1+14,w+4,3q+1c,n,j+5,4+3,3,3+1,7+2,4+d,d,3n+bl,1+3,2+",
      "6,1,1+3,2+19,1+3,2+11,1+3,2+6,1,1+3,2+g,1+1t,1+3,2+24,16+h,3n+mz,2+j,1+t,5+2d,6+7,7+k,f+",
      "l,g+k,g+d,1+2,h+1n,19,25+13,1+1p,7+4,2+12,1,5+27,b+z,1l+y,2+4,c+1d,4+t,1r+q,9+1p,5p+1h,k",
      "+7,1r+y,f+1,b+1d,v+14,1b+2,b+y,3n+3,1+5,1+1,3,13x+3,35t+1s,s+q,9+6,1+6,1+6,1+6,1+6,1+6,1",
      "+6,1+6,ks,1q,4+2r,8,1+2w,4,5+1c,1+30,k+10,1k+h,jj+6vm,22+pvt,1+15v,25+18,8+8m,4+h,b+1,24",
      ",1l+27,5g,3b,3+6,1+2,1+3,1+q,y+1n,g+1l,20+5,3,1+1,c+w,b+q,t+x,7+1h,1g+4,2+8,b+4,1+19,r+2",
      ",1+7,n+h,1+5,3,3+1l,1,3+1,2+4,2,1,s+1,3+b,7,g+5,2+5,2+5,9+6,1+6,4p+13,y+cmc,d+q,4+1k,8sn",
      "+cs,2+3d,25,1+9,1+d,1+4,1,1+1,1+1,1+3g,12+cp,l+21,2+1q,19+c,3r+4,1+4b,3d+9,1+1f,2+z,3+5,",
      "2+5,2+5,2+2,14+c,1+t,1+l,1+1,1+g,2+f,13+3y,dk+x,3+1k,1j+10,f+m,1+7,6+16,b+y,2+14,4+7,44+",
      "2h,35+18,8+1n,2z+1n,d+b0,9+p,b+7,4x+5,2,1+1d,1+1,3,2+q,b+q,9+z,23+l,1+1,b+p,b+t,28+1s,6+",
      "1,22,h+3,1+2,1+x,1c+x,3+x,14+7,1+w,w+1q,b+p,b+l,f+k,3k+2b,5x+14,17+3,1,9t+1b,6+1,j+2,1x+",
      "x,b,8+p,1c+k,1h+n,w+q,d+1p,1v+1,2,f+1f,11+s,v+14,y,2,8+13,3,d+1j,g+3,p,1,14+k,1+s,m+1,21",
      "+6,1,1+3,1+g,1+9,7+1h,17+7,2+1,2+p,1+6,1+1,1+4,3,l,d+4,z+9,1,2,1+16,1,t,1,1f+1p,l+3,n+2,",
      "z+1j,n+1,1,5y+1h,1b+3,15+1j,n,1x+1c,f,29+v,16+6,5z+1d,6t+7,2,2+7,1+1,1+r,h,1,31+7,2+17,j",
      ",1,x,b+18,7,p,c+1g,m,l+2b,6f+11,10+8,1+15,k,1l+y,3m+6,1+1,1+16,p,t+5,1+1,1+10,g,bk+l,h,1",
      "+d,1+12,40,2k+yq,7f+69,2r1+33,h+13k,k+5,t+44v,5+ls,73p+y,1tv+lb,7+z,k+2j,k+y,l+1j,1n+n,5",
      "+l,g1+18,f2+2d,5,5n+6cx,8+18x,1b+9,99r+9c,h,y+2,2,g+3,8+dr,2dg+3f,5+d,3+8,7+9,95d,j5+1f,",
      "12,bc+y,l+1d,hm+v,7d+y,2,hz+6,1+3,1+1,1+g,1+6b,1d6+3,1+v,1+1,1,2,1+9,1+3,1,1,6,4,1,1,1+2",
      ",1+1,1,2,1,1,1,1,1+1,1,2+3,1+6,1+3,1+3,1,1+9,1+j,5+2,1+4,1+j,4ll+1fg1,11+49z,6+74,2+5zv,",
      "g+7s1,h+n1,2kk+kg,1kl+549,5+4c6"]),
  ("Mn",
    String.join [
      "ss+3l,8w+4,8k+1f,1,1+1,1+1,1,2b+b,1k+n,j,38+6,2+5,2+1,1+3,14,z+v,2y+b,1w+8,9,s+3,1+8,1+2",
      ",1+4,1d+2,1x+8,1c+r,1+10,1s,1,4+7,4,3+6,b+1,y,1w,4+3,8,n+1,v,2+1,1v,4+1,4+1,2+2,3,z+1,3,",
      "c+1,1v,4+4,1+1,4,n+1,q+5,1,1w,2,1+3,8,7+1,c+1,z,1z,d,1m,3,1s,1+2,5+2,1+3,7+1,c+1,y,1w,2,",
      "6,5+1,n+1,x+1,1v+1,4+3,8,n+1,y,2b,7+2,1,2x,2+6,d+7,35,2+8,c+6,2c+1,w,1,1,1s+f,1+4,1+1,5+",
      "b,1+14,9,39+3,1+5,1+1,2+1,t+1,4+2,j+3,f,2+1,6,h,qp+2,zj+2,y+1,z+1,z+1,22+1,1+6,8,2+b,9,1",
      "g+2,1,3s+1,13,3t+2,4+1,9,6+2,72+1,2,1w,1+6,1,1,2+7,6+9,2,1k+f,1+h,1l+3,1k,1+4,1,5,19+8,d",
      "+1,11+3,2+1,1+2,1t,1+1,3,1+2,1w+7,2+1,4x+2,1+d,1+6,4,6,3+1,6d+21,r7+d,4,3+c,361+2,4k,33+",
      "10,kw+3,3g+1,10d1,4+9,11+1,2l+1,8s,3,4,t+1,5,4w+1,v+k,f,17+7,t+b,1h+2,1k,2+3,2+1,18,25+5",
      ",2+1,2+1,d,8,1j,1n,1+2,2+1,5+1,1,1c+1,8,7p,2,4,p2y,rs+h,j+h,10d,79,4t+4,1qw+2,1+1,5+3,19",
      "+2,4,5b+1,lh+3,23+4,b7+1,2k+3,28+b,1l+3,3z,1r+g,1b,2+1,b+2,1l+3,2+1,7,1z+2,15+4,1+7,20,d",
      "+1,1p+8,b+3,2,32+2,2,1+1,6,2,52,3+7,p+1,1v+1,3,16+6,3+4,28+5,f,1,1,g+1,2r+7,2+2,1,r,2q+5",
      ",1,4+1,1+1,7p+3,6+1,1+1,w+1,2r+7,2,1+1,3f,1,2+5,1,38,1,2+3,1+4,8c+8,1+1,88+1,1,4,4n+3,2+",
      "1,4,11+9,19+5,2+3,8,9+5,2+2,1h+d,1+1,f3+6,1+5,1,2n+p,2+6,1+1,1+1,3y+5,3,1+1,1+6,1,2b+1,3",
      ",1,c6+1,c+1,1p+4,5,1,r,5kk,6+g,cxt+c,3+2,2lj+4,1x+6,12t,21+3,2m,nfk+1,4ws+1g,2+q,kk+2,k+",
      "7,2+6,z+3,4s+2,21v+1r,4+1l,8,g,q+4,1+g,1dw+6,1+j,2+6,1+1,1+4,37,55+6,d3,1z+3,jd+3,86+1,r",
      "r+6,3j+6,vlnk+7q"]),
  ("Mc",
    String.join [
      "2df,1s,2+2,8+3,1+1,1m+1,1w+2,6+1,2+1,b,1d,1w+2,24,1w+2,8,1+1,1q+1,1w,1,6+1,2+1,b,39+1,1+",
      "1,3+2,1+2,b,1b+2,1z+3,1z+1,1w,1+4,2+1,1+1,9+1,x,g+1,1w+2,5+2,1+2,b,1c+1,2f+2,6+7,l+1,bn+",
      "1,21,5j+1,4,6,2+1,t+1,b+2,2+6,p+1,2+5,2,b+2,1qf,z,45,7+7,1+1,c5+3,2+2,4+1,1+5,77+1,1w,1,",
      "9,1+1,8+5,4p,1k,5,1+4,1+1,1z,z,4+1,2,1y,2+2,1,3+1,1k+7,8+1,5j,p,53n+1,10yk+1,2,2v+1,1m+h",
      ",4l+1,1j,1k+1,4+1,2+2,3k+1,2+1,s,1g,1,3j,2+1,5,7n+1,1+1,1+1,1,vnf,1,43,1g+2,4+1,3q,s+1,1",
      "x,1k+2,9+1,f,30+2,3+1,1,5h+2,10+1,1w+1,1+3,2+1,2+2,9,b+1,2q+2,7,2,1+3,1+1,1,38+2,8+1,3,3",
      "f+2,6,1+3,2,7n+2,6+3,2,3n+2,8+1,1,3j,1+1,6,3b,1+1,4,8f+2,9,7z+5,1+1,4,2,1,4l+2,8+3,4,2q,",
      "y+1,20,f4,g,3f,7,2,6w+4,4+1,1,c9+1,d,1k+1,8+1,1,kk8+2,3rs+1r,3c+1,tyr+1,6+5"]),
  ("Me",
    "16f+1,5xc,1mj+3,1+2,14kt+2"),
  ("Nd",
    String.join [
      "1k+9,1ms+9,4b+9,6d+9,f9+9,3t+9,3t+9,3t+9,3t+9,3t+9,3t+9,3t+9,3t+9,3t+9,33+9,3t+9,28+9,8z",
      "+9,28+9,1y2+9,17+9,9p+9,44+9,5c+9,6+9,5w+9,2s+9,4b+9,6+9,15pr+9,pw+9,17+9,6d+9,q+9,2s+9,",
      "f3+9,q44+9,1gm+9,28d+9,6+9,tp+9,44+9,1y+9,4n+9,8z+9,c1+9,3t+9,d2+9,39+9,6+m,2g+9,fm+9,39",
      "+9,pc+9,2s+9,7y+9,28+9,fm+9,kjp+9,2fk+9,2s+9,4b+9,k7+9,tfb+9,2wf+1l,2gd+9,fm+9,j6+9,7z+9",
      ",wj+9,4yh+9"]),
  ("Nl",
    "63c+2,2s5+13,2+3,3vp,t+8,g+2,10lz+9,s1t+1p,gv,8,4b+4,8km+3k"),
  ("No",
    String.join [
      "5r+1,5,2+2,2g1+5,d4+5,3w+2,49+6,70+6,k+8,fz+9,13r+m,15r+9,hh,1rc,3+5,6+9,6d+h,1b,rf+1x,2",
      "j+p,nb+y,1fp,16t+3,4g+9,z+7,1+g,11+9,18+g,108t+5,rng+1f,23+3,k+1,c0+v,15+3,1cz+7,t+6,18+",
      "8,2f+4,q+5,55+1,2+h,2+1g,22+8,1p+1,z+2,2f+4,3c+7,s+7,1b+6,bn+5,cc+z,53+9,1c+3,3m+6,4b+m,",
      "d7+m,1dj+1,fw+8,x3+l,wg+n,n3p+6,tr+q,vp4+m,d+m,3h+s,5ny+8,yz+1w,1+2,1+3,2g+1f,1+g,101+d"]),
  ("Pc",
    "32,8h6+1,m,1x36+1,s+2,7q"),
  ("Pd",
    "1g,1f8,1n,3sq,126,24c+5,3qn,2,10+1,4,x,gd,m,3l,1rrk+1,16,b,5g,3tq,b8"),
  ("Ps",
    String.join [
      "19,1m,10,3xr,1,1yv,2jd,3,17,1s,h,ng,1,z,141,1,1,1,1,1,1,2l,11,1,1,1,1,f1,1,1,1,1,1,1,1,1",
      ",1,1,22,1,12,137,1,1,1,t,l,1,1,1,ft,1,1,1,1,3,1,1,1,2,1rmz,6y,y,1,1,1,1,1,1,1,3,k,1,1,5h",
      ",1m,10,3,2"]),
  ("Pe",
    String.join [
      "1b,1n,10,3xq,1,1yv,2ks,1s,h,ng,1,z,141,1,1,1,1,1,1,2l,11,1,1,1,1,f1,1,1,1,1,1,1,1,1,1,1,",
      "22,1,12,137,1,1,1,1f,1,1,1,ft,1,1,1,1,3,1,1,1,2+1,1rmw,70,y,1,1,1,1,1,1,1,3,k,1,1,5h,1n,",
      "10,2,2"]),
  ("Pi",
    "5j,8ch,2+1,2,t,3nt,1,4,2,h,3"),
  ("Pf",
    "61,8c0,3,x,3nt,1,4,2,h,3"),
  ("Po",
    String.join [
      "12+2,1+2,2,1,1+1,b+1,3+1,w,26,5,g+1,7,qn,8,h1+5,1b,1r,2,2,1f+1,n+1,1+1,f,1+2,2d+3,39,1d+",
      "f,7j+2,1r+g,10,8f+1,b,4j,3w,3x,dl,d,cv,2x,b+1,5f+g,1,3m,2d+4,4+1,3l+5,5j,mr+8,sy,40+2,29",
      "+1,52+2,1+2,16+5,1+3,b3+1,6z+1,44+6,1+5,55+1,b+6,x+2,40+3,1x+4,20+1,22+7,c,vx+1,8+7,8+8,",
      "2+3,2+2,3+b,1,1+9,3c2+3,1+1,3m,4m+1,4+2,2,2+8,1+1,1,2+1,b+4,1+9,2+3,1,1+d,2+2,ft+2,1v,63",
      ",zx0+1,8p+2,36,b,3q+5,d8+3,2s+1,19+2,1,1l+1,1j,34+d,j+1,40+3,42+1,j+1,81,pwb+6,2,q,n+1,2",
      "+3,3+2,1+3,7+2,6,1+1,4t+2,1+2,2,1,1+1,b+1,3+1,w,15,2+1,f7+2,pk,1k,fc,rz,6f,10,8s+8,17,3m",
      "+6,24+6,2w+3,zq+4,1f+3,63+6,3j+1,1+3,42+3,1k+1,2k+3,4,f,1+2,2v+5,3g,9m+1,1+1,3p+4,b+1,1,",
      "3c,82+q,3d+2,x+d,2g,46+2,84,8j+2,50,2z+7,2p+2,1+4,30+9,6y,32+4,1c+1,nt+1,2d+d,5n,15n+4,3",
      "1v+1,hky+1,49,23+4,8,kt+2,9j+3,bk,nfp,7yy+4,31k,wt+1"]),
  ("Sm",
    String.join [
      "1d,j+2,1z,1,1g,4,16,10,sq,k0+2,6zm,f,18+2,f+2,4h,18+4,6,26+4,5+1,4,2,2,7,10+1,2,1,10+8m,",
      "11+1,2x,z+s,19+5,h4,9,1r+7,3l,bv+4,2+z,b+h,88+46,q+20,4+10,2+89,1k+n,2+5,1scj,vl,1+2,59,",
      "j+2,1z,1,47,6+3,3mk+1,1qlg,t,10,t,10,t,10,t,10,t,65c+1"]),
  ("Sc",
    "15,41+3,19k,3z,j2+1,j2+1,7,7x,8h,lr,2kb,2bd+11,152p,qv7,3h,4z,72+1,3+1,8hy+3,1nz9,2l0"),
  ("Sk",
    String.join [
      "31,1,29,6,4,3,jt+3,d+f,5+6,1,1+j,3s,g+1,1bc,65m,1+2,c+2,f+2,f+2,f+1,4f5+1,10jn+q,9+1,3b+",
      "1,10h,g+1,pcx+j,xr,1,57,230q+4"]),
  ("So",
    String.join [
      "5c,2,4,1,10j,8l+1,43+1,6n,b,m+1,7z,jm,d1,46+5,1,48,6p,1b,dm+2,h,1+2,2+5,n,1,1,49+7,1+5,1",
      "+1,5+3,6c+1,s8+9,rb,r9,52+12,cd+9,9+8,1gj+1,1+3,1+1,b,1+1,6+5,1,1,1,4,c+1,g,1+1,1,1w+1,9",
      "+4,2+3,1+1,1+1,1+6,1+z,2+1,1,1+z,8n+7,4+m,2+6,2+2l,1+y,t+18,6+29,q+b,2m+2h,q+5w,1+8,1+1q",
      ",8+3k,1+7z,1f+1d,22+87,jj+1j,p+1,6+17,2+10,1+3c,7d+5,cj+1,1h+t,1+2v,d+6w,v+h,4,f+1,d,p+1",
      ",6+1,bv+1,4+9,11+16,9,j+z,c+y,8,h+10,b+17,h+b9,6vn+21,r1v+1r,wx+3,b+1,1,lh+2,q1k+h,43,1g",
      "+2,hm,3,4+1,f+1,b3+8,1v+j,2+2,1+d,3,1j+1f,1qh+1,m2,39x,28w+7,4+j,n1r+3,5,pnp,432+7q,j+g1",
      ",51+3q,1y+7x,b+17,2+1x,5+2,q+1,7+y,4+1y,p+23,3,60+2s,17h+jh,1s+3,1m+7,1+f,1+1,1t0,30t,45",
      ",r8+1d,4+36,d+g,2+g,1+g,1+15,r+55,1t+x,f+1d,4+8,7+1,g+5,4z+82,5+rg,4+j,3+d,3+3t,4+31,6+c",
      ",4,h+c,4+1s,8+9,6+18,8+y,2+c,4+1,20+by,d+f,2+d,3+9,5+1s,7+g,2+b,6+8,7+4q,1+2y"]),
  ("Zs",
    "11,43,5tm,2jf+b,15,1j,451"),
  ("Zl",
    "8kk"),
  ("Zp",
    "8kl"),
  ("Cc",
    "0+10,32+11"),
  ("Cf",
    String.join [
      "5l,1dy+5,q,66,1l,dd+1,2l,418,23y+4,v+4,1l+4,1+9,1x8x,81+2,4gc,h,9f6+h,15b6+3,5jv+7,vsqz,",
      "z+32"]),
  ("Co",
    "1xnt+6nf,zvlq+265z,2+265z"),
  ("Cn",
    String.join [
      "xn+1,6+3,7,1,n,dt,17+1,1m+1,3,1s+7,w+3,6+b,8q,1y+1,38+f,1x+1,1l+1,h,x+1,1,c+4,10,2+4,7n,",
      "8+1,2+1,q,7,1+2,4+1,9+1,2+1,4+7,1+3,2,5+1,t+1,3,6+3,2+1,q,7,2,2,2+1,1,5+3,2+1,3+2,1+6,4,",
      "1+6,k+9,3,9,3,q,7,2,5+1,b,3,3+1,1+g,4+1,d+6,7,3,8+1,2+1,q,7,2,5+1,9+1,2+1,3+6,3+3,2,5+1,",
      "l+9,2,6+2,3,4+2,2,1,2+2,2+2,3+2,d+3,5+2,3,4+1,1+5,1+f,p+4,f,3,r,j+1,9,3,4+6,2,3+1,1+1,4+",
      "1,b+6,q,3,r,b,5+1,9,3,4+6,2+5,2,4+1,b,3+c,f,3,1n,3,6+3,j+1,v,3,l+2,s,9,1+1,7+2,1+3,6,1,8",
      "+5,b+1,3+c,1w+3,y+15,2,1,5,s,1,r+1,5,1,7,b+1,4+10,2b,15+3,18,15,h,f+15,6d,1+4,1+1,d5,4+1",
      ",7,1,4+1,1b,4+1,12,4+1,7,1,4+1,h,1v,4+1,25+1,11+2,v+5,2s+1,6+1,pl+2,2w+6,q+8,s+8,n+c,f,3",
      ",2+c,31+1,b+5,b+5,v+5,2w+6,1d+4,28+9,10,d+3,d+3,1+2,1c+1,5+b,1f+3,v+5,c+2,20+1,23,y+1,c+",
      "5,b+5,g+1,10+1k,2h,5c+7,1y+2,h+2,20+4,1d+1,c+7,1d+4,k7+1,6+1,17+1,6+1,8,1,1,1,10+1,1q,h,",
      "g+1,6,m+1,3,9,38,d+1,w,f+2,12+g,12+g,4j+3,ph+p,c+n,1wg+1,11,c8+4,1g,1+4,1+1,1t+6,2+f,s+8",
      ",7,7,7,7,7,7,7,7,42+12,v,2w+c,6x+t,2l,2s+1,3b+4,1d,31,2s+8,1k,zgy+2,1s+8,c7+m,5y+7,6n+1,",
      "2,1,8+n,1x+2,b+5,1t+7,28+7,d+5,3r+b,z+2,2j,c+3,12,1s+8,g+1,b+1,3b+r,x+9,6+1,6+1,6+8,7,7,",
      "1y+3,42+1,b+5,cmd+c,r+3,1l+3,95b+1,3f+16,7+c,5+4,v,5,1,2,2,41+h,gc+1,1r+6,1+10,1c+5,1n,m",
      ",4+3,5,4c+1,1,64+2,6+1,6+1,6+1,3+2,7,7+9,5+1,d,v,m,2,h+1,g+12,3z+4,3+3,1g+2,2v,f+2,1+1h,",
      "1h+45,y+2,1l+g,x+3,15+8,z+4,1d+4,z,16+3,g+1b,53+1,b+5,15+3,15+3,19+7,1p+b,d,h,7,2,c,h,7,",
      "2+2,1p+c,b1+8,q+9,8+r,6,1c,9+26,6+1,1,1f,2+2,1+1,r,2b+7,9+1j,m,2+4,12+2,w+4,1+21,1t+3,n+",
      "1,1m,2+4,8,3,y+1,3+3,b+6,9+6,22+10,18+3,d+8,1r+2,y+1,w+4,v+6,4+c,7+2k,2c+1r,1n+d,1n+6,1h",
      "+7,b+5,17+2,y+7,2+6p,10,1c,3+1,2+h,3+1r,1f+7,1c+p,v+16,x+m,r+8,2j+3,15+8,26+9,1+1,t+6,b+",
      "5,1q,l+7,18+8,33,n+b,l,1j+1z,7,1,4,h,c+5,1x+4,b+5,4,8+1,2+1,q,7,2,5,b+1,2+1,3+1,1+5,1+4,",
      "7+1,7+2,5+b,b,1+1,1,17,b,1+1,1,4,b,2+7,2+x,2z,5+y,2b+7,b+5b,1r+1,17+12,27+b,b+5,f+l,1w+5",
      ",b+5,n+w,w+1,h+3,r+5y,1y+36,2p+c,8+1,1+1,8,2,z,2+1,d+8,b+27,8+1,1h+1,c+v,2b+7,2p+d,2c+6,",
      "b+5v,13+f,b+5,9,1g,g+9,y+2,11+1,q,g+2b,7,2,1f+2,1,2,9+7,b+5,6,2,16,2,6+6,b+9z,t+6,k,1b+2",
      ",y+2q,1+g,1m+d,ys+38,3l,5+b,6b+2r0,36+d,14t+9,44w+4,lt+73n,1w+1sx,lc+6,10,b+3,2m,b+5,z+1",
      ",6+9,28+9,b,7,p+4,m+fx,1w+6c,2y+37,2f+3,1v+6,k+21,5+b,2+f,6cy+7,18y+19,b+996,4,7,2,9d+g,",
      "1+x,3+1,1+f,4+7,ds+2df,3g+4,f+2,9+6,b+1,8+42t,82+5,g2+2f,1h+1,r+8,3r+1x,7y+9,18+1,68+n,2",
      "8+3x,n+c,n+c,2t+8,t+4b,2r,29,2+1,1+1,2+1,4,d,1,7,23,4+1,8,7,x,4,5,1+2,7,bz+1,9f+1,qn+g,5",
      ",h+14l,10+5,6+6v,7,k+1,7,2,5+4,20+11,1+3l,1g+2,g+1,b+3,2+b9,10+j,1w+4,1+gy,1c+6w,1d+3,1+",
      "hg,7,4,2,h,6c+1,j+19,2g+3,b+3,2+t9,26+2f,1z+67,4,w,2,1+1,1,b,4,1,1+5,1+3,1,1,1,3,2,1+1,1",
      ",1,1,1,1,2,1+1,4,7,4,4,1,b,k+4,3,5,k+1n,2+8p,1f+3,37+c,h+1,h,h,16+9,5m+1s,y+d,1f+3,9+6,2",
      "+f,6+4y,10r+3,k+2,f+2,3v+3,32+5,d+3,1+g,d+3,1t+7,b+5,19+7,z+1,d+3,2+1z,bz+c,g+1,f+2,b+4,",
      "1t+6,h+1,c+5,9+6,4r,39+126,1fg2+10,4b0+5,75+1,5zw+f,7s2+g,n2+2kj,kh+1kk,54b+4,4c7+rwn0,1",
      "+y,33+43,7r+25p1,2660+1,2660+1"])]

end Unicode

end Conformance
