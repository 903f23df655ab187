/-!
# Binary properties

The code points that have each binary property of Unicode 16.0, by the property's long
name.

Each table is a text in the compact form that `Ranges.ofCompact` reads: the ranges in
ascending order, each written as the gap from the end of the previous range (from 0 for
the first) and, after `+`, its length less one, both in base 31 with the digits `0`–`9`
and the consonants `b`–`z`.
-/

namespace Conformance

namespace Unicode

/-- Each binary property with the code points that have it. -/
def binaryTables : List (String × String) := [
  ("ASCII_Hex_Digit",
    "1k+9,7+5,v+5"),
  ("Alphabetic",
    String.join [
      "23+t,6+t,1j,b,4,5+q,1+z,1+gr,4+c,g+4,7,1,2s,y+k,1+1,2+3,1,6,1+2,1,1+m,1+2n,1+4g,8+5b,1+1",
      "6,2,6+19,18+f,1,1+1,1+1,1,8+v,4+3,y+b,5+1s,1+6,g+38,1+7,4+7,4+2,b+2,2,j+1j,f+37,s+11,9+1",
      ",4,5+r,2+l,m+s,7+b,5+r,1+5,8,8+1b,b+c,3+6,6+2f,1+h,1+2,4+g,f+l,1+7,2+1,2+p,1+6,1,3+3,3+7",
      ",2+1,2+1,1,8,4+1,1+4,d+1,b,4+2,1+5,4+1,2+p,1+6,1+1,1+1,1+1,4+4,4+1,2+1,4,7+3,1,k+5,c+2,1",
      "+8,1+2,1+p,1+6,1+1,1+4,3+8,1+2,1+1,3,h+3,p+3,4+2,1+7,2+1,2+p,1+6,1+1,1+4,3+7,2+1,2+1,9+1",
      ",4+1,1+4,f,j+1,1+5,3+2,1+3,3+1,1,1+1,3+1,3+2,3+c,4+4,3+2,1+2,3,6,19+d,1+2,1+q,1+h,3+7,1+",
      "2,1+2,8+1,1+2,2,2+3,x+3,1+7,1+2,1+q,1+9,1+4,3+7,1+2,1+2,8+1,6+1,1+3,f+2,d+d,1+2,1+19,2+7",
      ",1+2,1+2,1,5+3,7+4,q+5,1+2,1+k,3+r,1+8,1,2+6,8+5,1,1+7,l+1,f+1v,5+6,6,1n+1,1,1+4,1+r,1,1",
      "+l,1+2,2+4,1,6,g+3,11,21+7,1+14,4+l,4+h,1+14,25+1r,1,2+4,j+21,b+3,2+16,1,5,2+1c,1+bq,1+3",
      ",2+6,1,1+3,2+19,1+3,2+11,1+3,2+6,1,1+3,2+g,1+1t,1+3,2+24,16+h,j+2r,2+5,3+mz,2+j,1+t,5+2d",
      ",3+b,7+m,c+n,d+m,d+d,1+2,1+1,d+1n,2+l,g,4,25+2v,7+1c,5+27,b+z,1+c,4+8,r+y,2+4,c+1d,4+t,1",
      "r+w,4+20,2+m,1m,r+1,c+2,1l+1n,1+g,1+7,1n+1b,2+3,b+1d,1+b,g+1r,q+2,b+14,2+b,5+1c,2+2,1b+3",
      ",1+5,1+1,3,5+65,m+12,c+8y,2+5,2+16,2+5,2+7,1,1,1,1+z,2+1p,1+6,1,3+2,1+6,3+3,2+5,4+d,5+2,",
      "1+6,3r,f,j+d,38,4,2+9,1,3+4,6,1,1,1+3,1+b,2+3,5+4,4,k+19,v7+1n,1wj+7c,6+3,3+1,d+16,1,5,2",
      "+1s,7,j+q,9+6,1+6,1+6,1+6,1+6,1+6,1+6,1+6,1+10,1j,h4+2,t+8,7+4,2+4,4+2r,6+2,1+2w,1+3,5+1",
      "c,1+30,k+10,1k+h,jj+6vm,22+r1q,25+1g,2+8n,3+h,b+1,n+1h,5+7,3+3m,18+8,2+39,2+24,2+1,1,1+7",
      ",p+m,1+11,s+1n,d+25,1,1f+5,3,1+2,b+11,5+13,f+x,3+1m,1+c,h,j+h,b+4,1+1r,9+f,l+q,3+26,1,1,",
      "s+2,2+h,2+3,c+5,2+5,2+5,9+6,1+6,1+1c,1+f,6+3y,p+cmc,d+q,4+1k,8sn+cs,2+3d,17+6,d+4,5+c,1+",
      "d,1+4,1,1+1,1+1,1+3g,12+cp,l+21,2+1q,19+c,3r+4,1+4b,15+t,6+t,c+2v,3+5,2+5,2+5,2+2,14+c,1",
      "+t,1+l,1+1,1+g,2+f,13+3y,27+1p,8m+x,3+1k,1j+10,f+y,5+1c,5+y,2+14,4+7,1+4,1c+52,l+14,4+14",
      ",4+18,8+1n,d+b,1+g,1+6,1+1,1+b,1+g,1+6,1+1,3+1n,d+b0,9+p,b+7,s+5,1+1b,1+8,27+5,2,1+1d,1+",
      "1,3,2+q,b+q,9+z,23+l,1+1,b+p,b+t,28+1s,6+1,22+3,1+1,5+7,1+2,1+x,1c+x,3+x,14+7,1+w,w+1q,b",
      "+p,b+l,f+k,3k+2b,1s+1m,f+1m,f+18,13+w,3,5+q,82+1b,1+1,3+1,j+2,1s,3+x,b,8+p,1c+k,1h+n,w+q",
      ",9+27,1d+4,b+1t,9,f+s,r+1m,k+3,8+13,3,9+21,1+3,9+1,b,1,14+k,1+12,2,6+3,20+6,1,1+3,1+g,1+",
      "9,7+1t,r+3,1+7,2+1,2+p,1+6,1+1,1+4,3+7,2+1,2+1,3,6,5+6,x+9,1,2,1+16,1+9,1,2,1+3,1+1,3,1,",
      "1f+23,1+2,1+3,n+2,z+23,2+1,1,5y+1q,2+6,t+5,13+20,1,3,1x+1q,2,29+v,2+f,p+6,5z+1t,3b+21,10",
      "+7,2,2+7,1+1,1+y,1+1,2+1,2+3,30+7,2+1g,2+5,1,1+1,w+1m,2+9,k+29,5,l+2b,6f+11,10+8,1+1f,1+",
      "6,1,1l+y,2+p,1+f,2c+6,1+1,1+1d,3,1+1,1+2,1,2+1,s+5,1+1,1+15,1+1,1+3,1,bk+q,9+j,1+19,3+2,",
      "3l,2k+yq,39+3k,k+69,2r1+33,h+13k,k+5,t+44v,5+ls,73p+1h,1t9+lb,7+z,k+2j,k+y,l+1j,j+3,10+n",
      ",5+l,fy+1f,6t+21,44+2d,4+1t,7+j,22+1,1,d+1,g+6cx,8+18x,1b+9,997+3,1+6,1+1,1+9c,h,y+2,2,g",
      "+3,8+dr,2dg+3f,5+d,3+8,7+9,4,672+2q,1+28,1+1,2,2+1,2+3,1+c,1,1+6,1+22,1+3,2+7,1+6,1+w,1+",
      "3,1+4,1,3+6,1+by,2+s,1+s,1+z,1+s,1+z,1+s,1+z,1+s,1+z,1+s,1+7,1xh+z,6+5,6w+6,1+j,2+6,1+1,",
      "1+4,5+1z,12,3m+1f,b+6,j,bc+y,l+1d,hm+w,7c+y,2,hz+6,1+3,1+1,1+g,1+6b,1x+25,3,3,17v+3,1+v,",
      "1+1,1,2,1+9,1+3,1,1,6,4,1,1,1+2,1+1,1,2,1,1,1,1,1+1,1,2+3,1+6,1+3,1+3,1,1+9,1+j,5+2,1+4,",
      "1+j,n8+t,6+t,6+t,3vf+1fg1,11+49z,6+74,2+5zv,g+7s1,h+n1,2kk+kg,1kl+549,5+4c6"]),
  ("Bidi_Control",
    "1mg,6x7+1,v+4,1s+3"),
  ("Bidi_Mirrored",
    String.join [
      "19+1,l,1,x,1,y,1,1g,h,3vp+3,1yt+1,2kc+1,b+1,1r+1,g+1,5q,66+3,3+5,3,3+1,3+3,1+3,1,1,4+8,5",
      ",1+k,5+3,9+1,1,1+7,1+10,2+3,5,9+1,2+l,5+1,9+4,2+1,4+r,2+h,8+3,n+1,7+1,140+f,2d,2+3,1+1,1",
      "+2,5+3,5+2,3+f,f0+p,2+5,1+f,8,7+5,3,4+4,1+1,2+4,4,1+2,2+1,b+5,2+1,d+l,1+3,2,1,2,1+3,5+1,",
      "6+2,s+1,c+1,4+3,1+1,2+1,4+1c,2+7,1+18,5,1,3+4,5+2,4,3+4,1,88,jm+3,3+1,1+1,g+1,2+9,1d+7,f",
      "s+9,2+7,1ry4+5,5+1,57+1,l,1,x,1,y,1,1+1,1+1,1vdb,1v,1v,1v,1v"]),
  ("Case_Ignorable",
    String.join [
      "18,6,c,14,1,29,4,1,4,2+1,j7+65,4+1,4,9+1,1,83+6,6p,5,1l+1f,1,1+1,1+1,1,1f,c+5,b+b,1,14,b",
      "+n,j,38+7,1+9,1+3,12,1,z+v,2y+b,1w+b,4,2,s+r,1d+2,1f,7+1,5+8,1b+1v,1s,1,4+7,4,3+6,b+1,f,",
      "h,1w,4+3,8,n+1,v,2+1,1v,4+1,4+1,2+2,3,z+1,3,c+1,1v,4+4,1+1,4,n+1,q+5,1,1w,2,1+3,8,7+1,c+",
      "1,z,1z,d,1m,3,1s,1+2,5+2,1+3,7+1,c+1,y,1w,2,6,5+1,n+1,x+1,1v+1,4+3,8,n+1,y,2b,7+2,1,2x,2",
      "+6,c+8,35,2+8,9,1+6,2c+1,w,1,1,1s+f,1+4,1+1,5+b,1+14,9,39+3,1+5,1+1,2+1,t+1,4+2,j+3,f,2+",
      "1,6,h,31,mm+2,zj+2,y+1,z+1,z+1,22+1,1+6,8,2+b,3,5,1g+4,1n,23+1,13,3t+2,4+1,9,6+2,72+1,2,",
      "1w,1+6,1,1,2+7,6+9,2,18,8+z,1l+3,1k,1+4,1,5,19+8,d+1,11+3,2+1,1+2,1t,1+1,3,1+2,1w+7,2+1,",
      "22+5,2n+2,1+d,1+6,4,6,3+1,1m+20,f,13+37,gc,1+2,c+2,f+2,f+2,f+1,d+4,8+1,b,2,2+4,1l+4,1+9,",
      "1,f,j+d,1n+11,32b+1,3n+2,41,h,33+10,1j,h4,15+3,3+4,5,30+5,30+2,ylc,19b+5,8q,35+3,1+9,1,x",
      "+3,2l+1,g+12,2j,r+2,3b+2,3+1,8,3,4,t+1,5,4w+1,v+k,f,17+7,t+b,1h+2,1k,2+3,2+1,k,p+1,24+5,",
      "2+1,2+1,d,8,14,c,1n,1+2,2+1,5+1,1,w,g+1,5+1,1,37+4,9+2,3x,2,4,p2y,4r+j,lh+h,3,d+h,13,2,5",
      "g,7,6,c,14,1,1j,1g+1,25,p+2,jk,79,4t+4,126+5,1+1b,1+8,ls+2,1+1,5+3,19+2,4,5b+1,lh+3,17,v",
      "+4,1,b5+1,2k+3,28+b,1l+3,3z,1r+g,1b,2+1,b+2,1l+3,2+1,2,4,b,1m+2,15+4,1+7,20,d+1,1p+8,b+3",
      ",2,32+2,2,1+1,6,2,52,3+7,p+1,1v+1,3,16+6,3+4,28+5,f,1,1,g+1,2r+7,2+2,1,r,2q+5,1,4+1,1+1,",
      "7p+3,6+1,1+1,w+1,2r+7,2,1+1,3f,1,2+5,1,38,1,2+3,1+4,8c+8,1+1,88+1,1,4,4n+3,2+1,4,11+9,19",
      "+5,2+3,8,9+5,2+2,1h+d,1+1,f3+6,1+5,1,2n+p,2+6,1+1,1+1,3y+5,3,1+1,1+6,1,2b+1,3,1,c6+1,c+1",
      ",1p+4,5,1,r,5k1+j,6+g,cxt+c,3+2,2lj+4,1x+6,9+3,jd+2,19+1,hk,21+j,22+1,1+1,k1w+3,1+6,1+1,",
      "3c6+1,1+3,4wm+1g,2+q,kk+2,9+h,2+6,z+3,4s+2,21v+1r,4+1l,8,g,q+4,1+g,1dw+6,1+j,2+6,1+1,1+4",
      ",5+1z,12,55+f,cw,1z+3,jc+4,86+1,rr+6,3j+7,2v7+4,vhjx,z+32,44+7q"]),
  ("Cased",
    String.join [
      "23+t,6+t,1j,b,4,5+q,1+z,1+68,1+3,4+6p,1+14,7+1,z+4,33,1c+3,2+1,2+3,1,6,1+2,1,1+m,1+2n,1+",
      "4g,8+5b,1+16,9+19,2yl+16,1,5,2+1c,1+3,pp+2r,2+5,288+b,5+1c,2+2,22+65,22+8y,2+5,2+16,2+5,",
      "2+7,1,1,1,1+z,2+1p,1+6,1,3+2,1+6,3+3,2+5,4+d,5+2,1+6,3r,f,j+d,38,4,2+9,1,3+4,6,1,1,1+3,1",
      "+5,4,2+3,5+4,4,k+10,3+1,vc+1n,1wj+7c,6+3,3+1,d+16,1,5,117t+1g,l+y,48+38,3+3,1+1z,2+1,1,1",
      "+7,p+4,1+2,vh+1c,1+f,6+2k,p3g+6,d+4,12b+t,6+t,17c+2k,33+14,4+14,3r+b,1+g,1+6,1+1,1+b,1+g",
      ",1+6,1+1,gk,2+2,1+1b,1+8,18d+1m,f+1m,30+p,b+p,2yp+21,qr1+21,w16+2q,1+28,1+1,2,2+1,2+3,1+",
      "c,1,1+6,1+22,1+3,2+7,1+6,1+w,1+3,1+4,1,3+6,1+by,2+s,1+s,1+z,1+s,1+z,1+s,1+z,1+s,1+z,1+s,",
      "1+7,1xh+9,1+m,6+5,8f+1z,28s+25,23f+t,6+t,6+t"]),
  ("Changes_When_Casefolded",
    String.join [
      "23+t,2x,b+q,1+7,11,1,1,1,1,1,1,1,1,1,1,1,1,1,1,1,1,1,1,1,1,1,1,1,1,1,1,1,2,1,1,1,1,1,1,1",
      ",1+1,1,1,1,1,1,1,1,1,1,1,1,1,1,1,1,1,1,1,1,1,1,1,1+1,1,1,1,1+1,1,1+1,1+2,2+3,1+1,1+2,3+1",
      ",1+1,1,1,1+1,1,2,1+1,1+2,1,1+1,3,7+1,1+1,1+1,1,1,1,1,1,1,1,1,2,1,1,1,1,1,1,1,1,2+1,1,1+2",
      ",1,1,1,1,1,1,1,1,1,1,1,1,1,1,1,1,1,1,1,1,1,1,1,1,1,1,1,1,1,7+1,1+1,2,1+3,1,1,1,1,7y,1c,1",
      ",3,8,6,1+2,1,1+1,1+j,1+8,q,d+2,3+1,1,1,1,1,1,1,1,1,1,1,1,1,1+1,2+1,1,1+1,2+1m,1k,1,1,1,1",
      ",1,1,1,1,1,1,1,1,1,1,1,1,9,1,1,1,1,1,1,1,1,1,1,1,1,1,1,1,1,1,1,1,1,1,1,1,1,1,1,1+1,1,1,1",
      ",1,1,1,2,1,1,1,1,1,1,1,1,1,1,1,1,1,1,1,1,1,1,1,1,1,1,1,1,1,1,1,1,1,1,1,1,1,1,1,1,1,1,1,1",
      ",1,1,1,1,1,1,1,2+16,1k,2ym+16,1,5,v4+5,288+9,6+1c,2+2,bb,1,1,1,1,1,1,1,1,1,1,1,1,1,1,1,1",
      ",1,1,1,1,1,1,1,1,1,1,1,1,1,1,1,1,1,1,1,1,1,1,1,1,1,1,1,1,1,1,1,1,1,1,1,1,1,1,1,1,1,1,1,1",
      ",1,1,1,1,1,1,1,1,1,1,1,1,1,1,5+1,2,1,1,1,1,1,1,1,1,1,1,1,1,1,1,1,1,1,1,1,1,1,1,1,1,1,1,1",
      ",1,1,1,1,1,1,1,1,1,1,1,1,1,1,1,1,1,1,1,1,1,9+7,8+5,b+7,8+7,8+5,c,1,1,1,8+7,j+1j,2+2,2+5,",
      "5+2,2+5,c+3,d+4,5+2,2+5,9l,3+1,6,1g+h,m,vd+t,1xc+1j,1k,1+2,2,1,1,1+3,1,2,8+2,1,1,1,1,1,1",
      ",1,1,1,1,1,1,1,1,1,1,1,1,1,1,1,1,1,1,1,1,1,1,1,1,1,1,1,1,1,1,1,1,1,1,1,1,1,1,1,1,1,1,1,8",
      ",1,4,119q,1,1,1,1,1,1,1,1,1,1,1,1,1,1,1,1,1,1,1,1,1,1,m,1,1,1,1,1,1,1,1,1,1,1,1,1,4c,1,1",
      ",1,1,1,1,3,1,1,1,1,1,1,1,1,1,1,1,1,1,1,1,1,1,1,1,1,1,1,1,1,1,1,1,1,1,1,b,1,1+1,1,1,1,1,4",
      ",1,2,1,3,1,1,1,1,1,1,1,1,1,1+4,1+4,1,1,1,1,1,1,1,1+3,1,1+1,3,5,1,1,1,s,xq+2k,p3g+6,d+4,1",
      "2b+t,18d+18,4d+14,51+b,1+g,1+6,1+1,1v3+1m,52+p,2zq+10,qs2+10,11nn+12"]),
  ("Changes_When_Casemapped",
    String.join [
      "23+t,6+t,1w,b+q,1+z,1+21,1+2p,1+w,2+f,2+1,1,4+2z,1+k,6+v,1+1,1,1+1,3+1,1+3,1+4,2,1+1,2,7",
      ",2,1+1,3+5,5,b+1,5c,1c+3,2+1,3+2,1,6,1+2,1,1+m,1+1h,3+11,1+4,1+48,8+5b,1+16,b+17,2ym+16,",
      "1,5,2+1c,2+2,pp+2r,2+5,288+b,5+1c,2+2,5z,3,j,3n+50,2,1+3s,2+5,2+16,2+5,2+7,1,1,1,1+z,2+1",
      "p,1+6,1,3+2,1+6,3+3,2+5,4+d,5+2,1+6,9l,3+1,6,w,k+10,3+1,vc+1n,1wj+3m,1+1,1+1,7+38,7+3,3+",
      "1,d+16,1,5,117t+1g,l+w,4b+f,2+1z,9+g,3+2,2+4,1+s,1+y,2+1,4+6,s+1,wr,x+2k,p3g+6,d+4,12b+t",
      ",6+t,17c+2k,33+14,4+14,3r+b,1+g,1+6,1+1,1+b,1+g,1+6,1+1,1sv+1m,f+1m,30+p,b+p,2yp+21,qr1+",
      "21,11mm+25"]),
  ("Changes_When_Lowercased",
    String.join [
      "23+t,38+q,1+6,12,1,1,1,1,1,1,1,1,1,1,1,1,1,1,1,1,1,1,1,1,1,1,1,1,1,1,1,2,1,1,1,1,1,1,1,2",
      ",1,1,1,1,1,1,1,1,1,1,1,1,1,1,1,1,1,1,1,1,1,1,1+1,1,1,3+1,1,1+1,1+2,2+3,1+1,1+2,3+1,1+1,1",
      ",1,1+1,1,2,1+1,1+2,1,1+1,3,7+1,1+1,1+1,1,1,1,1,1,1,1,1,2,1,1,1,1,1,1,1,1,2+1,1,1+2,1,1,1",
      ",1,1,1,1,1,1,1,1,1,1,1,1,1,1,1,1,1,1,1,1,1,1,1,1,1,1,7+1,1+1,2,1+3,1,1,1,1,9b,1,3,8,6,1+",
      "2,1,1+1,1+j,1+8,14,8,1,1,1,1,1,1,1,1,1,1,1,5,2,1+1,2+1m,1k,1,1,1,1,1,1,1,1,1,1,1,1,1,1,1",
      ",1,9,1,1,1,1,1,1,1,1,1,1,1,1,1,1,1,1,1,1,1,1,1,1,1,1,1,1,1+1,1,1,1,1,1,1,2,1,1,1,1,1,1,1",
      ",1,1,1,1,1,1,1,1,1,1,1,1,1,1,1,1,1,1,1,1,1,1,1,1,1,1,1,1,1,1,1,1,1,1,1,1,1,1,1,1,2+16,30",
      "6+16,1,5,r9+2r,28t,6+1c,2+2,bb,1,1,1,1,1,1,1,1,1,1,1,1,1,1,1,1,1,1,1,1,1,1,1,1,1,1,1,1,1",
      ",1,1,1,1,1,1,1,1,1,1,1,1,1,1,1,1,1,1,1,1,1,1,1,1,1,1,1,1,1,1,1,1,1,1,1,1,1,1,1,1,1,1,1,1",
      ",1,9,1,1,1,1,1,1,1,1,1,1,1,1,1,1,1,1,1,1,1,1,1,1,1,1,1,1,1,1,1,1,1,1,1,1,1,1,1,1,1,1,1,1",
      ",1,1,1,1,1,1,9+7,8+5,b+7,8+7,8+5,c,1,1,1,8+7,s+7,8+7,8+7,8+4,c+4,c+3,d+4,c+4,9l,3+1,6,1g",
      "+h,m,vd+t,1xc+1j,1k,1+2,2,1,1,1+3,1,2,8+2,1,1,1,1,1,1,1,1,1,1,1,1,1,1,1,1,1,1,1,1,1,1,1,",
      "1,1,1,1,1,1,1,1,1,1,1,1,1,1,1,1,1,1,1,1,1,1,1,1,1,1,8,1,4,119q,1,1,1,1,1,1,1,1,1,1,1,1,1",
      ",1,1,1,1,1,1,1,1,1,m,1,1,1,1,1,1,1,1,1,1,1,1,1,4c,1,1,1,1,1,1,3,1,1,1,1,1,1,1,1,1,1,1,1,",
      "1,1,1,1,1,1,1,1,1,1,1,1,1,1,1,1,1,1,b,1,1+1,1,1,1,1,4,1,2,1,3,1,1,1,1,1,1,1,1,1,1+4,1+4,",
      "1,1,1,1,1,1,1,1+3,1,1+1,3,5,1,1,1,s,r6v+t,18d+18,4d+14,51+b,1+g,1+6,1+1,1v3+1m,52+p,2zq+",
      "10,qs2+10,11nn+12"]),
  ("Changes_When_Titlecased",
    String.join [
      "34+t,1w,1b+r,1+7,1,1,1,1,1,1,1,1,1,1,1,1,1,1,1,1,1,1,1,1,1,1,1,1,1,1,1,1,2,1,1,1,1,1,1,1",
      "+1,1,1,1,1,1,1,1,1,1,1,1,1,1,1,1,1,1,1,1,1,1,1,1,2,1,1+2,2,1,2,3,5,2,3+2,2,2,1,1,2,4,2,3",
      ",1,2,3,1,4,1+1,1+1,1,1,1,1,1,1,1,1,1+1,1,1,1,1,1,1,1,1,1+2,1,1,3,1,1,1,1,1,1,1,1,1,1,1,1",
      ",1,1,1,1,1,1,1,3,1,1,1,1,1,1,1,1,8,2+1,1,4,1,1,1,1+5,1+1,1,1+1,3+1,1+3,1+4,2,1+1,2,7,2,1",
      "+1,3+5,5,b+1,5c,1d,1,3,3+2,l,w+13,1+1,3+2,1,1,1,1,1,1,1,1,1,1,1,1+4,1,2,2,1p+1j,1,1,1,1,",
      "1,1,1,1,1,1,1,1,1,1,1,1,1,9,1,1,1,1,1,1,1,1,1,1,1,1,1,1,1,1,1,1,1,1,1,1,1,1,1,1,2,1,1,1,",
      "1,1,1+1,1,1,1,1,1,1,1,1,1,1,1,1,1,1,1,1,1,1,1,1,1,1,1,1,1,1,1,1,1,1,1,1,1,1,1,1,1,1,1,1,",
      "1,1,1,1,1,1,1,1,1l+17,3v7+5,288+8,1,7p,3,j,3p,1,1,1,1,1,1,1,1,1,1,1,1,1,1,1,1,1,1,1,1,1,",
      "1,1,1,1,1,1,1,1,1,1,1,1,1,1,1,1,1,1,1,1,1,1,1,1,1,1,1,1,1,1,1,1,1,1,1,1,1,1,1,1,1,1,1,1,",
      "1,1,1,1,1,1,1,1,1+6,5,1,1,1,1,1,1,1,1,1,1,1,1,1,1,1,1,1,1,1,1,1,1,1,1,1,1,1,1,1,1,1,1,1,",
      "1,1,1,1,1,1,1,1,1,1,1,1,1,1+8,8+5,b+7,8+7,8+5,b+7,8+7,8+f,2+7,8+7,8+7,8+4,1+1,6,3+2,1+1,",
      "8+3,2+1,8+7,b+2,1+1,c1,12+h,4,w6+t,1y2+1j,1,3+1,1,1,1,6,2,b,1,1,1,1,1,1,1,1,1,1,1,1,1,1,",
      "1,1,1,1,1,1,1,1,1,1,1,1,1,1,1,1,1,1,1,1,1,1,1,1,1,1,1,1,1,1,1,1,1,1,1,8,1,4,d+16,1,5,117",
      "v,1,1,1,1,1,1,1,1,1,1,1,1,1,1,1,1,1,1,1,1,1,1,m,1,1,1,1,1,1,1,1,1,1,1,1,1,4c,1,1,1,1,1,1",
      ",3,1,1,1,1,1,1,1,1,1,1,1,1,1,1,1,1,1,1,1,1,1,1,1,1,1,1,1,1,1,1,b,1,2,1,1,1,1,4,4,1+1,2,1",
      ",1,1,1,1,1,1,1,1,c,1,1,1,1,1,1,1,4,1,2,3,5,1,1,v,wr,x+2k,p3g+6,d+4,13c+t,18n+18,4d+14,50",
      "+b,1+g,1+6,1+1,1vx+1m,41+p,2zq+10,qs2+10,11nq+12"]),
  ("Changes_When_Uppercased",
    String.join [
      "34+t,1w,1b+r,1+7,1,1,1,1,1,1,1,1,1,1,1,1,1,1,1,1,1,1,1,1,1,1,1,1,1,1,1,1,2,1,1,1,1,1,1,1",
      "+1,1,1,1,1,1,1,1,1,1,1,1,1,1,1,1,1,1,1,1,1,1,1,1,2,1,1+2,2,1,2,3,5,2,3+2,2,2,1,1,2,4,2,3",
      ",1,2,3,1,5+1,1+1,1+1,1,1,1,1,1,1,1,1+1,1,1,1,1,1,1,1,1,1+1,1+1,1,3,1,1,1,1,1,1,1,1,1,1,1",
      ",1,1,1,1,1,1,1,1,3,1,1,1,1,1,1,1,1,8,2+1,1,4,1,1,1,1+5,1+1,1,1+1,3+1,1+3,1+4,2,1+1,2,7,2",
      ",1+1,3+5,5,b+1,5c,1d,1,3,3+2,l,w+13,1+1,3+2,1,1,1,1,1,1,1,1,1,1,1,1+4,1,2,2,1p+1j,1,1,1,",
      "1,1,1,1,1,1,1,1,1,1,1,1,1,1,9,1,1,1,1,1,1,1,1,1,1,1,1,1,1,1,1,1,1,1,1,1,1,1,1,1,1,2,1,1,",
      "1,1,1,1+1,1,1,1,1,1,1,1,1,1,1,1,1,1,1,1,1,1,1,1,1,1,1,1,1,1,1,1,1,1,1,1,1,1,1,1,1,1,1,1,",
      "1,1,1,1,1,1,1,1,1,1l+17,305+1c,2+2,sj+5,288+8,1,7p,3,j,3p,1,1,1,1,1,1,1,1,1,1,1,1,1,1,1,",
      "1,1,1,1,1,1,1,1,1,1,1,1,1,1,1,1,1,1,1,1,1,1,1,1,1,1,1,1,1,1,1,1,1,1,1,1,1,1,1,1,1,1,1,1,",
      "1,1,1,1,1,1,1,1,1,1,1,1,1,1,1+6,5,1,1,1,1,1,1,1,1,1,1,1,1,1,1,1,1,1,1,1,1,1,1,1,1,1,1,1,",
      "1,1,1,1,1,1,1,1,1,1,1,1,1,1,1,1,1,1,1,1+8,8+5,b+7,8+7,8+5,b+7,8+7,8+f,2+1p,1+1,4,1,3+2,1",
      "+1,4,3+3,2+1,8+7,b+2,1+1,4,bw,12+h,4,w6+t,1y2+1j,1,3+1,1,1,1,6,2,b,1,1,1,1,1,1,1,1,1,1,1",
      ",1,1,1,1,1,1,1,1,1,1,1,1,1,1,1,1,1,1,1,1,1,1,1,1,1,1,1,1,1,1,1,1,1,1,1,1,1,1,8,1,4,d+16,",
      "1,5,117v,1,1,1,1,1,1,1,1,1,1,1,1,1,1,1,1,1,1,1,1,1,1,m,1,1,1,1,1,1,1,1,1,1,1,1,1,4c,1,1,",
      "1,1,1,1,3,1,1,1,1,1,1,1,1,1,1,1,1,1,1,1,1,1,1,1,1,1,1,1,1,1,1,1,1,1,1,b,1,2,1,1,1,1,4,4,",
      "1+1,2,1,1,1,1,1,1,1,1,1,c,1,1,1,1,1,1,1,4,1,2,3,5,1,1,v,wr,x+2k,p3g+6,d+4,13c+t,18n+18,4",
      "d+14,50+b,1+g,1+6,1+1,1vx+1m,41+p,2zq+10,qs2+10,11nq+12"]),
  ("Dash",
    "1g,1f8,1n,3sq,126,24c+5,1z,18,h,dl,367,2,10+1,4,x,gd,m,3l,1rrk+1,16,b,5g,3tq,b8"),
  ("Default_Ignorable_Code_Point",
    "5l,pq,r3,2zz+1,1p7+1,2r+4,23x+4,v+4,1l+h,4j0,1rhn+h,7q,55,2k+8,1m7x+3,5jv+7,vsqy+483"),
  ("Deprecated",
    "bm,1cm,2df,1,25d+1,2bf+5,qh+1,zhcj"),
  ("Diacritic",
    String.join [
      "31,1,29,6,4,2+1,j7+53,1+7,5+5,k+1,4,9+1,85+4,6r,1s+j,1+v,1,1+1,1,4b+7,4+1,4b+1,4+1,3+2,2",
      "5+v,2y+b,1w+b,13+1,42+7,1b+9,j+w,1z,j,3+3,x,2d,j,3k,j,3k,j,1j+2,1y,j,7,3v,3k,j,3k,j,3j+1",
      ",j,40,3l,d+5,1,3g,f+4,2f+1,w,1,1,4+1,24+2,1+1,20,3m,1+1,19+1,4+4,t+6,1,b+1,qr+2,zl+1,z,4",
      "s+b,9,c6+2,9f,n+7,2,1k+g,2+b,3c,h,17+8,1r+1,1w,c+1,24+1,22+5,2n+s,4,6,2+2,1m+20,2w+c,16+",
      "b,gc,1+2,c+2,f+2,f+2,f+1,3fv+2,b7,jb+5,3d+3,32,108w,d+1,1,x+1,2n+1,g+12,39+2,3j+1,d,16,4",
      "w,w+k,1v+3,15,32,d,15,4t+2,23+3,1n,37+4,9+2,44+1,p2y,st+h,8q,1,1j,1g+1,25,sn,175+5,1+1b,",
      "1+8,nk+2,4,5b+1,lf+5,17,v+4,dw+2,28+b,1l+3,66,1b,2b+1,3w+1,20,2g,9+2,3c+1,5r+1,2l+1,j,s+",
      "6,3+4,2w+2,1+1,f+1,32,3,3z+1,83+1,42,3t+1,3q,8p+1,8b+1,4,51,2p,l,2m,fl,8b,1+1,2m,fq+1,r,",
      "5ks+g,cyc,2lj+4,1x+6,l6+1,km+j,2l+1,k1g+3,1+6,1+1,881+1g,2+q,kk+2,3+5,8+7,2+6,z+3,3vt+1z",
      ",68+6,d3,1z+3,sq+1,rr+6,3j+2,1+2"]),
  ("Emoji",
    String.join [
      "14,6,5+9,3l,4,8dk,d,6z,q,2x+5,h+1,cv+1,d,5c,t+b,4+2,6f,7g+1,b,9,1w+3,1+4,9,2,2+1,2,4,2,1",
      "+1,2,3,3+1,8+2,5,1,5+c,c+1,2,1+1,1,l,2+1,l+5,1,1+1,3+1,5,2+1,4+1,c+1,5+1,2,5+1,1,1+1,n+1",
      ",5+5,1+3,2,4,2,2+5,1,2,1,1,6,3,6,b+1,h,2,4,1,4+2,1,c+1,1k+2,9,g,g,d0+1,gy+2,m+1,1n,4,192",
      ",d,md,1,3tn8,6j,55+1,d+1,g,2+9,2f+t,1+1,r,n,2+8,p+1,5m+12,2+3l,2+1,1+2,2+2n,2+2,1+8g,1+2",
      "0,c+5,1+r,7+1,2+7,d,2+3,2,4+1,f+1,2,8+1,9,5+2,d+2,8+2,2,1,4,6,3,6+2r,1k+27,5+7,2+2,4+9,3",
      ",1+1,3,2+9,7b+c,4,94+1h,1+9,1+5y,3m+d,3+9,5+1s,7+g,2+b,6+8"]),
  ("Emoji_Component",
    "14,6,5+9,8gt,6w,1wxf,22ym+t,jc+4,1hz+3,vg1t+32"),
  ("Emoji_Modifier",
    "495w+4"),
  ("Emoji_Modifier_Base",
    String.join [
      "b4r,72,j+3,3ynk,1y+2,2,2+2,3s+1,2+b,p+l,3,4+2,1+2,7,1,s,6h+1,4,p,4+1,5m+2,3+4,2p,j+2,9,c",
      ",lk,2,8+7,6,9+9,2+2,1t,1z+1,1+1,1,k+2,1+d,7d+2,1c+8"]),
  ("Emoji_Presentation",
    String.join [
      "9bw+1,6m+3,3,2,jt+1,p+1,1m+c,1d,m,f,8+1,k+1,5+1,8,5,p,7+1,1,4,2,7,4+1,x,14,1,4+2,1,1z+2,",
      "s,g,wq+1,1n,4,3wl8,6j,64,2+9,2f+t,1,s,n,2+4,1+2,p+1,5m+11,d+8,1+27,1+p,d+1c,4+4,d+j,3,3+",
      "28,1,1+60,2+20,f+3,1+r,l,v+1,f,2s+2q,1k+27,6,3+2,2+2,4+3,c+1,7+8,7b+c,4,94+1h,1+9,1+5y,3",
      "m+d,3+9,5+1s,7+g,2+b,6+8"]),
  ("Extended_Pictographic",
    String.join [
      "5g,4,8dk,d,6z,q,2x+5,h+1,cv+1,d,32,28,t+b,4+2,6f,7g+1,b,9,1w+3,1+5,1+c,1+3n,b+3s,2+b,1,1",
      ",6,3,6,b+1,h,2,4,1,4+2,1,c+4,1g+2,9,g,g,d0+1,gy+2,m+1,1n,4,192,d,md,1,3tn4+87,f+2,10,1y+",
      "5,d+1,g,2+9,l+1t,w+g,b,n,2+8,1+3,9+fz,5+b7,8+8k,1k+43,3r+c,2r+1c,d+3,1t+7,b+5,19+7,z+2m,",
      "d+1h,1+9,1+g6,88+11y"]),
  ("Extender",
    String.join [
      "5x,k9+1,xb,g7,nb,4f,2w,s8,43,2gh,1t,mq,dv,26,56b,1d+4,3b+1,30+2,ylc,1l7,101,q,4f,3h,p+1,",
      "qhn,24l+1,1jv,w,4,18g,9g,3r+1,j2+2,18q,ph3+1,172+1,1,z60+1,17r,wh+2"]),
  ("Grapheme_Base",
    String.join [
      "11+31,12+d,1+m4,3m+7,2+5,4+6,1,1+m,1+76,7+5b,1+16,2+1l,2+2,1h,1,2,2,9+v,4+5,k+9,c,1+1g,p",
      "+h,1+37,8,6+1,2,4+10,2,1+y,y+2v,c,g+1c,9+6,3+r,4,9,3,7+g,1+s,5,1+b,5+z,k+1b,1v+1r,1,1+3,",
      "8+3,1+2,7+9,2+x,1+1,1+7,2+1,2+p,1+6,1,3+3,3,1+1,6+1,2+1,1,f+1,1+2,4+r,5,1+5,4+1,2+p,1+6,",
      "1+1,1+1,1+1,4+2,s+3,1,7+9,2+2,1,d,1+8,1+2,1+p,1+6,1+1,1+4,3+3,8,1+1,3,h+1,4+c,7,8+1,1+7,",
      "2+1,2+p,1+6,1+1,1+4,3,2,6+1,2+1,h+1,1+2,4+k,c,1+5,3+2,1+3,3+1,1,1+1,3+1,3+2,3+c,5,1+1,3+",
      "2,1+2,3,p+n,6+2,1+7,1+2,1+q,1+h,3,3+3,m+2,2,2+1,4+9,7+9,1+b,1+2,1+q,1+9,1+4,3+1,2,1+1,s+",
      "1,1+1,4+9,1+2,g+b,1+2,1+19,2,1+1,5+2,1+2,1+1,4+2,1+9,4+t,2+1,1+k,3+r,1+8,1,2+6,9+1,6+6,7",
      "+9,2+2,d+1j,1+1,c+7,8+d,16+1,1,1+4,1+r,1,1+9,1+1,9,2+4,1,9+9,2+3,11+r,2+v,1,1,1+f,1+14,l",
      ",5,2+4,1l+7,1+5,1+d,16+1f,4,6,2+1,2+s,2+3,3+h,4+d,1+1,2+5,1+g,1+18,1,5,2+d4,1+3,2+6,1,1+",
      "3,2+19,1+3,2+11,1+3,2+6,1,1+3,2+g,1+1t,1+3,2+24,5+x,3+t,6+2r,2+5,2+pk,3+2v,7+k,f+l,3+1,9",
      "+k,g+d,1+2,h+1n,2,7+7,1+1,c+8,3+9,6+9,6+b,5+9,6+2v,7+4,2+12,1,5+27,b+z,4+3,2+2,4+1,1+5,7",
      ",3+1b,2+4,c+1d,4+t,6+b,3+1t,2+1,3+1s,1,9,1+1,8+5,f+9,6+9,6+f,2s+1j,b+3,3+7,1+x,9+c,2+10,",
      "4+1,6+1s,1,2+2,1,f+1j,8+1,5+g,3+1z,5+1c,2+b,c,f,7+3,1+5,1+2,2,5+65,22+8y,2+5,2+16,2+5,2+",
      "7,1,1,1,1+z,2+1p,1+g,1+f,2+5,1+l,2+2,1+8,1+b,5+r,7+1k,j+1,2+v,1+d,3+11,21+4h,4+pg,q+b,p+",
      "1wf,2+10,1+c2,3+1,5+1f,1,5,2+1s,7+1,h+q,9+6,1+6,1+6,1+6,1+6,1+6,1+6,1+6,12+30,13+t,1+2v,",
      "d+6w,v+1v,6+h,1+2r,4+37,5+1c,1+30,1+2r,9+1j,1+zgx,3+1r,9+c6,n+1h,4,b+10,2+2k,2+5,8+6m,2+",
      "1,1,1+7,p+h,1+2,1+3,1+s,2+4,4+9,6+1s,8+25,b+c,s+d,1+16,8+s,c,d+y,6+1j,1+1,4+1,2+1,1+d,1+",
      "b,4+6,1+s,1+19,6+1,2+1,c+2,1+7,1,2+9,2+10,1+1m,1,3+1,2+4,2,1,s+j,2+7,c+5,2+5,2+5,9+6,1+6",
      ",1+1x,4+3r,1+1,1+3,3+9,6+cmc,d+q,4+1k,8sn+cs,2+3d,17+6,d+4,5,1+r,1+4,1,1+1,1+1,1+40,j+gb",
      ",2+1q,7,11+h,j+9,q+13,1+l,1+3,4+4,1+4b,4+51,2+z,3+5,2+5,2+5,2+2,3+6,1+6,f+1,2+c,1+t,1+l,",
      "1+1,1+g,2+f,13+3y,5+2,4+1f,3+2t,1+d,3,1j+1f,47+x,3+1k,j+v,4+14,9+y,5+16,b+y,1+15,4+f,1c+",
      "52,2+9,6+14,4+14,4+18,8+1n,c+c,1+g,1+6,1+1,1+b,1+g,1+6,1+1,3+1n,d+b0,9+p,b+7,s+5,1+1b,1+",
      "8,27+5,2,1+1d,1+1,3,2+q,1+29,8+8,1k+l,1+1,5+11,3+v,5,22+1s,4+m,2+1h,h+3,1+2,1+x,b+8,7+8,",
      "7+21,11+15,6+c,9+1q,3+x,2+v,5+t,7+3,d+6,2l+2b,1s+1m,f+1m,7+1b,d+9,6+16,8+r,8+1,6q+z,1+1b",
      ",3,2+1,j+2,1x+18,8+p,c+8,q+k,4+3,17+w,n+q,9,1+1q,h+6,4+y,1+1,2,d+1k,4+1,2+1,1+3,g+s,7+9,",
      "9+14,5,9+k,8+13,1+2,c+1n,9,1+7,4+1,1+h,1+m,c+k,1+w,3+1,4+5,1+1,21+6,1,1+3,1+g,1+b,6+1h,1",
      "+2,f+9,8+1,1+7,2+1,2+p,1+6,1+1,1+4,3,1,1+3,2+1,2+1,3,d+6,x+9,1,2,1+16,1,1+1,h,1+1,3,1+2,",
      "1+1,18+1s,8+1,3,1+n,1,1+2,z+1j,1+1,6,1+1,1,2,2+3,8+9,5c+1h,1+1,6+3,2,2+v,15+1m,8+1,1,2+3",
      ",c+9,6+d,m+1c,1,1+1,8+1,6+9,6+m,x+v,3,1+1,4,9+q,5z+1h,9,2,37+2n,d+7,2,2+7,1+1,1+r,1+4,1+",
      "1,6+3,1+2,9+9,28+7,2+1b,8+3,1+3,w,b+18,6+1,4+7,9,6+1,3+1g,f,2+8,f+2b,7+9,5w+12,g+9,6+8,1",
      "+16,g,1+5,b+x,3+10,t,7,2,2f+6,1+1,1+16,p,9+9,6+5,1+1,1+15,4+1,1,1,7+9,b0+l,2+3,9+g,1+14,",
      "8+1,3+q,2s,h+1l,f+yr,39+3k,1+4,c+69,2r1+35,f+13k,k+5,t+44v,5+ls,73p+y,d+2,3+9,1sy+lb,7+z",
      ",1+9,4+2l,1+9,6+y,7,b+1j,7+g,b+9,1+6,1+n,5+l,fy+1v,6d+2x,38+2d,5+1s,c+d,22+3,x+6cx,8+18x",
      ",1b+9,997+3,1+6,1+1,1+9c,h,y+2,2,g+3,8+dr,2dg+3f,5+d,3+8,7+9,2,2,42z+81,6+g1,51+3q,1y+7x",
      ",b+17,2+1x,5+2,q+1,7+y,4+1y,p+23,3,3y+m,d+m,d+2s,9+s,4c+2q,1+28,1+1,2,2+1,2+3,1+c,1,1+6,",
      "1+22,1+3,2+7,1+6,1+w,1+3,1+4,1,3+6,1+by,2+9d,2+l3,1s+3,1m+7,1+f,1+6,15s+z,6+5,8f+1z,4q+1",
      "f,b+6,2+9,4+1,bb+y,l+1d,4+9,5,gz+w,4+9,6x+y,2+b,4,hh+6,1+3,1+1,1+g,1+6b,2+8,1k+25,7,4+9,",
      "4+1,tb+25,2g+1y,68+3,1+v,1+1,1,2,1+9,1+3,1,1,6,4,1,1,1+2,1+1,1,2,1,1,1,1,1+1,1,2+3,1+6,1",
      "+3,1+3,1,1+9,1+j,5+2,1+4,1+j,1p+1,8q+1d,4+36,d+g,2+g,1+g,1+15,b+5l,1t+x,f+1d,4+8,7+1,g+5",
      ",4z+10q,4+j,3+d,3+3t,4+31,6+c,4,h+c,4+1s,8+9,6+18,8+y,2+c,4+1,20+by,d+f,2+d,3+9,5+1s,7+g",
      ",2+b,6+8,7+4q,1+38,127+1fg1,11+49z,6+74,2+5zv,g+7s1,h+n1,2kk+kg,1kl+549,5+4c6"]),
  ("Grapheme_Extend",
    String.join [
      "ss+3l,8w+6,8h+1f,1,1+1,1+1,1,2b+b,1k+n,j,38+6,2+5,2+1,1+3,14,z+v,2y+b,1w+8,9,s+3,1+8,1+2",
      ",1+4,1d+2,1x+8,1c+r,1+10,1s,1,4+7,4,3+6,b+1,y,1w,1,2+3,8,9,b+1,v,2+1,1v,4+1,4+1,2+2,3,z+",
      "1,3,c+1,1v,4+4,1+1,4,n+1,q+5,1,1w,1+1,1+3,8,7+2,b+1,z,1x,1,d,9,19,3,1s,1+2,5+2,1+3,7+1,c",
      "+1,y,1w,2+1,1,3+2,1+3,7+1,c+1,x+1,1v+1,1,2+3,8,9,b+1,y,2b,4,2+2,1,8,2m,2+6,d+7,35,2+8,c+",
      "6,2c+1,w,1,1,1s+f,1+4,1+1,5+b,1+14,9,39+3,1+5,1+1,2+1,t+1,4+2,j+3,f,2+1,6,h,qp+2,zj+3,x+",
      "2,y+1,z+1,22+1,1+6,8,2+b,9,1g+2,1,3s+1,13,3t+2,4+1,9,6+2,72+1,2,1w,1+6,1,1,2+7,6+9,2,1k+",
      "z,1l+3,1k+9,4+2,17+8,d+1,11+3,2+5,1t,1+1,3,1+4,1t+7,2+1,4x+2,1+d,1+6,4,6,3+1,6d+21,jx,69",
      "+11,361+2,4k,33+10,kw+5,3d+1,10d1+3,1+9,11+1,2l+1,8s,3,4,t+1,5,4w+1,v+k,f,17+7,t+b,1,1f+",
      "2,1k,2+3,2+1,2,15,25+5,2+1,2+1,d,8,1j,1n,1+2,2+1,5+1,1,1c+1,8,7p,2,4,p2y,rs+h,j+h,ct+1,m",
      "j,79,4t+4,1qw+2,1+1,5+3,19+2,4,5b+1,lh+3,23+4,b7+1,2k+3,28+b,1l+3,3z,1r+g,1b,2+1,b+2,1l+",
      "3,2+1,7,1z+2,15+4,1+7,20,d+1,1p+8,1,8+3,2,32+2,2+3,6,2,52,3+7,p+1,1v+1,1,1,d,9,g+6,3+4,2",
      "5,2+5,1,2,1+2,4+2,1,g+1,2r+7,2+2,1,r,2m,2+5,1,2,1+1,1+1,7l,2+3,6+1,1+1,w+1,2r+7,2,1+1,3f",
      ",1,2+7,38,1,2+3,1+4,8c+8,1+1,7x,b+3,4,4n+3,2+1,4,11+9,19+5,2+3,8,9+5,2+2,1h+d,1+1,f3+6,1",
      "+5,1,2n+p,2+6,1+1,1+1,3y+5,3,1+1,1+6,1,2b+1,3,1,c6+1,c+1,1p+4,5+2,r,5kk,6+g,cxt+c,3+2,2l",
      "j+4,1x+6,12t,21+3,2m,c+1,nf4+1,4ws+1g,2+q,kh+4,3+5,8+7,2+6,z+3,4s+2,21v+1r,4+1l,8,g,q+4,",
      "1+g,1dw+6,1+j,2+6,1+1,1+4,37,55+6,d3,1z+3,jd+3,86+1,rr+6,3j+6,vlfb+32,44+7q"]),
  ("Grapheme_Link",
    String.join [
      "2gt,43,43,43,43,43,43,43,3j+1,j,40,3l,43,6h,5t+1,1tk+1,z,52,p2,7b,38+1,28+1,4nw,11mt,16,",
      "4w,4l,3h,9z,7y,t3w,1lr,1b,g,1v,3x+1,4h,3r,5t,35,44+2,3n,43,84,43,3t,3r,8p,8c+1,56,2p,l,2",
      "m,fl,8d+1,2m,fq+1,kkd"]),
  ("Hex_Digit",
    "1k+9,7+5,v+5,25v0+9,7+5,v+5"),
  ("Hyphen",
    "1g,43,194,4xm,24c+1,3qs,rv,1rq7,5g,2t"),
  ("IDS_Binary_Operator",
    "drw+1,2+9,j1"),
  ("IDS_Trinary_Operator",
    "dry+1"),
  ("IDS_Unary_Operator",
    "dsb+1"),
  ("ID_Compat_Math_Continue",
    "5r+1,5,8fw,3+b,1+g,cz,4,q,3r9r,t,10,t,10,t,10,t,10,t"),
  ("ID_Compat_Math_Start",
    "91v,4,q,3r9r,t,10,t,10,t,10,t,10,t"),
  ("ID_Continue",
    String.join [
      "1k+9,7+t,4,1+t,1j,b,1,2,5+q,1+z,1+gr,4+c,g+4,7,1,k+3r,1+1,2+3,1,6+4,1,1+m,1+2n,1+4g,1+4,",
      "2+5b,1+16,2,6+19,8+1f,1,1+1,1+1,1,8+v,4+3,y+b,5+2c,4+38,1+7,2+9,1+l,2,j+1w,2+37,g+1q,4,2",
      ",2+1g,l+w,4+b,5+r,1+5,8+2d,1+44,2+9,1+l,1+7,2+1,2+p,1+6,1,3+3,2+8,2+1,2+3,8,4+1,1+4,2+c,",
      "b,1,2+2,1+5,4+1,2+p,1+6,1+1,1+1,1+1,2,1+4,4+1,2+2,3,7+3,1,7+h,c+2,1+8,1+2,1+p,1+6,1+1,1+",
      "4,2+9,1+2,1+2,2,h+3,2+9,9+6,1+2,1+7,2+1,2+p,1+6,1+1,1+4,2+8,2+1,2+2,7+2,4+1,1+4,2+9,1,j+",
      "1,1+5,3+2,1+3,3+1,1,1+1,3+1,3+2,3+c,4+4,3+2,1+3,2,6,g+9,j+d,1+2,1+q,1+h,2+8,1+2,1+3,7+1,",
      "1+2,2,2+3,2+9,j+3,1+7,1+2,1+q,1+9,1+4,2+8,1+2,1+3,7+1,6+1,1+3,2+9,1+2,d+d,1+2,1+1m,1+2,1",
      "+4,5+3,7+4,2+9,b+5,1+2,1+k,3+r,1+8,1,2+6,3,4+5,1,1+7,6+9,2+1,f+1v,5+g,1+9,18+1,1,1+4,1+r",
      ",1,1+q,2+4,1,1+6,1+9,2+3,11,r+1,6+9,c,1,1,4+9,1+14,4+m,1+k,1+14,9,1v+2c,6+2h,2+16,1,5,2+",
      "1c,1+bq,1+3,2+6,1,1+3,2+19,1+3,2+11,1+3,2+6,1,1+3,2+g,1+1t,1+3,2+24,2+2,9+8,g+h,j+2r,2+5",
      ",3+mz,2+j,1+t,5+2d,3+b,7+p,9+p,c+m,d+d,1+2,1+1,d+2p,3,4+1,2+9,12+2,1+b,6+2v,7+1c,5+27,b+",
      "z,1+c,4+c,b+18,2+4,c+1d,4+t,6+b,16+w,4+20,1+x,2+b,6+9,f,8+f,1+h,1l+2g,3+9,k+8,d+3q,d+1s,",
      "8+9,3+1k,2+b,5+1c,2+2,j+2,1+17,5+k6,2+5,2+16,2+5,2+7,1,1,1,1+z,2+1p,1+6,1,3+2,1+6,3+3,2+",
      "5,4+d,5+2,1+6,h+1,1l+1,m,x,f,j+d,1n+d,4,3+c,k,4,2+9,1,2+5,6,1,1,1+h,2+3,5+4,4,k+19,2sf+7",
      "c,6+8,d+16,1,5,2+1s,7,h+r,9+6,1+6,1+6,1+6,1+6,1+6,1+6,1+6,1+10,jp+2,t+g,1+4,2+4,4+2r,2+6",
      ",1+31,5+1c,1+30,k+10,1k+h,jj+6vm,22+r1q,25+1g,2+8n,3+w,n+1j,4+9,1+3p,16+8,2+39,2+24,2+1,",
      "1,1+7,p+1q,4,m+1n,d+27,b+9,6+r,3,1+1k,2+14,d+x,3+22,g+b,6+z,1+1r,9+f,2+9,6+q,3+2b,s+2,2+",
      "h,2+4,b+5,2+5,2+5,9+6,1+6,1+1c,1+f,6+3y,1+1,2+9,6+cmc,d+q,4+1k,8sn+cs,2+3d,17+6,d+4,5+c,",
      "1+d,1+4,1,1+1,1+1,1+3g,12+cp,l+21,2+1q,19+c,4+h,j+h,3+1,s+2,11+4,1+4b,m+9,7+t,4,1+t,b+2w",
      ",3+5,2+5,2+5,2+2,14+c,1+t,1+l,1+1,1+g,2+f,13+3y,27+1p,4d,46+x,3+1k,h,10+10,f+y,5+1c,5+y,",
      "2+14,4+7,1+4,1c+52,2+9,6+14,4+14,4+18,8+1n,d+b,1+g,1+6,1+1,1+b,1+g,1+6,1+1,3+1n,d+b0,9+p",
      ",b+7,s+5,1+1b,1+8,27+5,2,1+1d,1+1,3,2+q,b+q,9+z,23+l,1+1,b+p,b+t,28+1s,6+1,22+3,1+1,5+7,",
      "1+2,1+x,2+2,4,11+x,3+x,14+7,1+y,t+1q,b+p,b+l,f+k,3k+2b,1s+1m,f+1m,f+18,8+9,6+16,3+4,1+q,",
      "82+1b,1+1,3+1,j+2,1s+11,b,8+11,10+p,1c+n,w+q,9+28,10+h,9+1x,7,f+s,7+9,6+1p,1+9,4+3,8+14,",
      "2,9+26,4+3,1+d,1,14+k,1+15,6+3,20+6,1,1+3,1+g,1+9,7+1w,5+9,6+3,1+7,2+1,2+p,1+6,1+1,1+4,1",
      "+9,2+1,2+2,2,6,5+6,2+6,3+4,c+9,1,2,1+16,1+9,1,2,1+3,1+7,f+1,y+2d,5+9,4+3,z+27,1,8+9,5c+1",
      "q,2+8,r+5,13+22,3,c+9,17+1t,7+9,6+m,x+v,2+g,4+9,6+6,5z+1w,38+2c,p+7,2,2+7,1+1,1+y,1+1,2+",
      "8,d+9,28+7,2+1g,2+7,1+1,w+20,8,8+2c,3,l+2b,6f+11,h+9,6+8,1+1f,1+8,h+9,s+y,2+p,1+f,2c+6,1",
      "+1,1+1d,3,1+1,1+8,8+9,6+5,1+1,1+15,1+1,1+5,7+9,b0+q,9+j,1+19,3+4,f+b,2r,2k+yq,39+3k,k+69",
      ",2r1+33,h+13k,j+p,b+44v,5+ls,73p+1v,1sy+lb,7+z,1+9,6+2j,1+9,6+y,2+4,c+1r,9+3,d+9,9+n,5+l",
      ",fy+1f,3+9,6d+21,44+2d,4+1t,7+j,22+1,1+1,c+1,g+6cx,8+18x,1b+9,997+3,1+6,1+1,1+9c,h,y+2,2",
      ",g+3,8+dr,2dg+3f,5+d,3+8,7+9,3+1,4br+9,jq+1g,2+q,kh+4,3+5,8+7,2+6,z+3,4s+2,g9+2q,1+28,1+",
      "1,2,2+1,2+3,1+c,1,1+6,1+22,1+3,2+7,1+6,1+w,1+3,1+4,1,3+6,1+by,2+s,1+s,1+z,1+s,1+z,1+s,1+",
      "z,1+s,1+z,1+s,1+7,2+1l,jj+1r,4+1l,8,g,q+4,1+g,14m+z,6+5,6w+6,1+j,2+6,1+1,1+4,5+1z,12,3m+",
      "1f,3+f,2+9,4,bc+z,k+1v,h5+1b,6x+1c,hn+6,1+3,1+1,1+g,1+6b,c+6,1b+2f,4+9,17d+3,1+v,1+1,1,2",
      ",1+9,1+3,1,1,6,4,1,1,1+2,1+1,1,2,1,1,1,1,1+1,1,2+3,1+6,1+3,1+3,1,1+9,1+j,5+2,1+4,1+j,3j1",
      "+9,127+1fg1,11+49z,6+74,2+5zv,g+7s1,h+n1,2kk+kg,1kl+549,5+4c6,rwx8+7q"]),
  ("ID_Start",
    String.join [
      "23+t,6+t,1j,b,4,5+q,1+z,1+gr,4+c,g+4,7,1,45+4,1+1,2+3,1,6,1+2,1,1+m,1+2n,1+4g,8+5b,1+16,",
      "2,6+19,29+v,4+3,1g+1c,14+1,1+35,1,h+1,7+1,b+2,2,j,1+y,y+2v,c,s+11,9+1,4,5+p,4,9,3,r+s,7+",
      "b,5+r,1+5,k+1b,1w+1q,3,l,7+9,h+h,4+7,2+1,2+p,1+6,1,3+3,3,j,f+1,1+2,g+1,b,8+5,4+1,2+p,1+6",
      ",1+1,1+1,1+1,10+3,1,m+2,j+8,1+2,1+p,1+6,1+1,1+4,3,l,h+1,r,c+7,2+1,2+p,1+6,1+1,1+4,3,z+1,",
      "1+2,h,k,1+5,3+2,1+3,3+1,1,1+1,3+1,3+2,3+c,q,1p+7,1+2,1+q,1+h,3,v+2,2,2+1,z,4+7,1+2,1+q,1",
      "+9,1+4,3,10+1,1+1,h+1,k+8,1+2,1+19,2,j,5+2,8+2,s+5,5+k,3+r,1+8,1,2+6,1w+1j,1+1,d+6,1w+1,",
      "1,1+4,1+r,1,1+9,1+1,9,2+4,1,p+3,11,21+7,1+14,w+4,3q+1c,n,j+5,4+3,3,3+1,7+2,4+d,d,k+16,1,",
      "5,2+1c,1+bq,1+3,2+6,1,1+3,2+19,1+3,2+11,1+3,2+6,1,1+3,2+g,1+1t,1+3,2+24,16+h,j+2r,2+5,3+",
      "mz,2+j,1+t,5+2d,3+b,7+k,f+l,g+k,g+d,1+2,h+1n,14,4,25+2v,7+19,1,5+27,b+z,1l+y,2+4,c+1d,4+",
      "t,1r+q,9+1p,2n,30+1h,k+7,1r+y,f+1,b+1d,v+14,1b+2,b+14,2+b,5+1c,2+2,1b+3,1+5,1+1,3,5+65,2",
      "2+8y,2+5,2+16,2+5,2+7,1,1,1,1+z,2+1p,1+6,1,3+2,1+6,3+3,2+5,4+d,5+2,1+6,3r,f,j+d,38,4,2+9",
      ",1,2+5,6,1,1,1+h,2+3,5+4,4,k+19,2sf+7c,6+3,3+1,d+16,1,5,2+1s,7,j+q,9+6,1+6,1+6,1+6,1+6,1",
      "+6,1+6,1+6,kr+2,t+8,7+4,2+4,4+2r,4+4,1+2w,1+3,5+1c,1+30,k+10,1k+h,jj+6vm,22+r1q,25+1g,2+",
      "8n,3+h,b+1,n+1h,j+z,2+2k,18+8,2+39,2+24,2+1,1,1+7,p+h,1+2,1+3,1+q,y+1n,g+1l,20+5,3,1+1,c",
      "+w,b+q,t+x,7+1h,x,j+4,1+9,b+4,1+19,r+2,1+7,n+q,3,3+1l,1,3+1,2+4,2,1,s+2,2+b,7+2,d+5,2+5,",
      "2+5,9+6,1+6,1+1c,1+f,6+3p,y+cmc,d+q,4+1k,8sn+cs,2+3d,17+6,d+4,5,1+9,1+d,1+4,1,1+1,1+1,1+",
      "3g,12+cp,l+21,2+1q,19+c,3r+4,1+4b,15+t,6+t,c+2v,3+5,2+5,2+5,2+2,14+c,1+t,1+l,1+1,1+g,2+f",
      ",13+3y,27+1p,8m+x,3+1k,1j+10,f+y,5+16,b+y,2+14,4+7,1+4,1c+52,l+14,4+14,4+18,8+1n,d+b,1+g",
      ",1+6,1+1,1+b,1+g,1+6,1+1,3+1n,d+b0,9+p,b+7,s+5,1+1b,1+8,27+5,2,1+1d,1+1,3,2+q,b+q,9+z,23",
      "+l,1+1,b+p,b+t,28+1s,6+1,22,h+3,1+2,1+x,1c+x,3+x,14+7,1+w,w+1q,b+p,b+l,f+k,3k+2b,1s+1m,f",
      "+1m,f+14,17+w,9+q,82+1b,6+1,j+2,1x+x,b,8+p,1c+k,1h+n,w+q,d+1p,1v+1,2,f+1f,11+s,v+14,y,2,",
      "8+13,3,d+1j,g+3,p,1,14+k,1+s,m+1,21+6,1,1+3,1+g,1+9,7+1h,17+7,2+1,2+p,1+6,1+1,1+4,3,l,d+",
      "4,z+9,1,2,1+16,1,t,1,1f+1p,l+3,n+2,z+1j,n+1,1,5y+1h,1b+3,15+1j,n,1x+1c,f,29+v,16+6,5z+1d",
      ",3r+21,10+7,2,2+7,1+1,1+r,h,1,31+7,2+17,j,1,x,b+18,7,p,c+1g,m,l+2b,6f+11,10+8,1+15,k,1l+",
      "y,3m+6,1+1,1+16,p,t+5,1+1,1+10,g,bk+l,h,1+d,1+12,40,2k+yq,39+3k,k+69,2r1+33,h+13k,k+5,t+",
      "44v,5+ls,73p+y,1tv+lb,7+z,k+2j,k+y,l+1j,j+3,10+n,5+l,fy+1f,6t+21,44+2d,5,24+d,22+1,1,x+6",
      "cx,8+18x,1b+9,997+3,1+6,1+1,1+9c,h,y+2,2,g+3,8+dr,2dg+3f,5+d,3+8,7+9,677+2q,1+28,1+1,2,2",
      "+1,2+3,1+c,1,1+6,1+22,1+3,2+7,1+6,1+w,1+3,1+4,1,3+6,1+by,2+s,1+s,1+z,1+s,1+z,1+s,1+z,1+s",
      ",1+z,1+s,1+7,1xh+z,6+5,8f+1z,4q+1f,b+6,j,bc+y,l+1d,hm+w,7c+y,2,hz+6,1+3,1+1,1+g,1+6b,1x+",
      "25,7,17v+3,1+v,1+1,1,2,1+9,1+3,1,1,6,4,1,1,1+2,1+1,1,2,1,1,1,1,1+1,1,2+3,1+6,1+3,1+3,1,1",
      "+9,1+j,5+2,1+4,1+j,4ll+1fg1,11+49z,6+74,2+5zv,g+7s1,h+n1,2kk+kg,1kl+549,5+4c6"]),
  ("Ideographic",
    String.join [
      "dsl+1,t+8,g+2,104+6vm,22+pv4,rpz+cs,2+3d,105j,w+6cx,8+18x,1b+9,9pm+dr,nj0+1fg1,11+49z,6+",
      "74,2+5zv,g+7s1,h+n1,2kk+kg,1kl+549,5+4c6"]),
  ("Join_Control",
    "8jn+1"),
  ("Logical_Order_Exception",
    "3sp+4,3z+4,2xb+2,2,17m7+1,2,1+1"),
  ("Lowercase",
    String.join [
      "34+t,1j,b,4,15+r,1+7,1,1,1,1,1,1,1,1,1,1,1,1,1,1,1,1,1,1,1,1,1,1,1,1,1,1,1,1+1,1,1,1,1,1",
      ",1,1,1+1,1,1,1,1,1,1,1,1,1,1,1,1,1,1,1,1,1,1,1,1,1,1,1,2,1,1+2,2,1,2,3+1,4,2,3+2,2,2,1,1",
      ",2,1+1,1,2,3,1,2+1,2+2,6,2,2,1,1,1,1,1,1,1,1+1,1,1,1,1,1,1,1,1,1+1,2,1,3,1,1,1,1,1,1,1,1",
      ",1,1,1,1,1,1,1,1,1,1,1,1,1,1,1,1,1,1,1,1,1+6,2,2+1,1,4,1,1,1,1+26,1+14,7+1,z+4,33,1d,1,3",
      ",2+3,l,w+13,1+1,3+2,1,1,1,1,1,1,1,1,1,1,1,1+4,1,2,2+1,1n+1j,1,1,1,1,1,1,1,1,1,1,1,1,1,1,",
      "1,1,1,9,1,1,1,1,1,1,1,1,1,1,1,1,1,1,1,1,1,1,1,1,1,1,1,1,1,1,2,1,1,1,1,1,1+1,1,1,1,1,1,1,",
      "1,1,1,1,1,1,1,1,1,1,1,1,1,1,1,1,1,1,1,1,1,1,1,1,1,1,1,1,1,1,1,1,1,1,1,1,1,1,1,1,1,1,1k+1",
      "9,304+1c,1+3,sj+5,288+8,1,3s+65,23,1,1,1,1,1,1,1,1,1,1,1,1,1,1,1,1,1,1,1,1,1,1,1,1,1,1,1",
      ",1,1,1,1,1,1,1,1,1,1,1,1,1,1,1,1,1,1,1,1,1,1,1,1,1,1,1,1,1,1,1,1,1,1,1,1,1,1,1,1,1,1,1,1",
      ",1,1,1+8,1,1,1,1,1,1,1,1,1,1,1,1,1,1,1,1,1,1,1,1,1,1,1,1,1,1,1,1,1,1,1,1,1,1,1,1,1,1,1,1",
      ",1,1,1,1,1,1,1,1,1+8,8+5,b+7,8+7,8+5,b+7,8+7,8+f,2+7,8+7,8+7,8+4,1+1,6,3+2,1+1,8+3,2+1,8",
      "+7,b+2,1+1,3x,f,j+d,3j,3+1,3,w,4,4,2+1,8+3,4,12+h,4,w6+t,1y2+1j,1,3+1,1,1,1,4,1+1,1+7,3,",
      "1,1,1,1,1,1,1,1,1,1,1,1,1,1,1,1,1,1,1,1,1,1,1,1,1,1,1,1,1,1,1,1,1,1,1,1,1,1,1,1,1,1,1,1,",
      "1,1,1,1,1+1,7,1,4,d+16,1,5,117v,1,1,1,1,1,1,1,1,1,1,1,1,1,1,1,1,1,1,1,1,1,1,m,1,1,1,1,1,",
      "1,1,1,1,1,1,1,1+2,49,1,1,1,1,1,1+2,1,1,1,1,1,1,1,1,1,1,1,1,1,1,1,1,1,1,1,1,1,1,1,1,1,1,1",
      ",1,1,1,1+9,1,1,2,1,1,1,1,4,1,2,1+2,1,1,1,1,1,1,1,1,1,1,5,5,1,1,1,1,1,1,1,4,1,2,3,1,1,1,1",
      ",1,q+2,1,1+2,vh+1c,1+f,6+2k,p3g+6,d+4,13c+t,18n+18,4d+14,50+b,1+g,1+6,1+1,gk,2+2,1+1b,1+",
      "8,1bg+1m,41+p,2zq+10,qs2+10,w21+t,v+6,1+k,v+t,v+3,1,1+6,1+b,v+t,v+t,v+t,v+t,v+t,v+t,v+t,",
      "v+t,v+w,x+s,1+5,v+s,1+5,v+s,1+5,v+s,1+5,v+s,1+5,1,1xh+9,1+m,6+5,8f+1z,29w+12"]),
  ("Math",
    String.join [
      "1d,j+2,10,y,1,1g,4,16,10,rh+2,2,v+1,2+2,k0+2,6y4,w+2,c,3,f,g+3,p+4,c+4,23+d,4,3+1,4+4,l,",
      "4,2+9,1,2+5,6,3+1,2+1,1+2,1+5,3+f,1,26+r,1+5,1+1,4+1,4+10,1,6+1,g+8m,8+3,n+1,2x,z+v,1,s,",
      "c+6,gc+1,d+9,4+5,4+1,2+1,3+4,g,1,2+5,c+7,5+1,1v,1,y+3,9+2,bv+21,88+jh,1k+n,2+5,1scj,vk+5",
      ",1,57,j+2,y,1,y,1,47,6+3,3mk+1,1pvq+2q,1+28,1+1,2,2+1,2+3,1+c,1,1+6,1+22,1+3,2+7,1+6,1+w",
      ",1+3,1+4,1,3+6,1+by,2+9d,2+1l,5vp+3,1+v,1+1,1,2,1+9,1+3,1,1,6,4,1,1,1+2,1+1,1,2,1,1,1,1,",
      "1+1,1,2+3,1+6,1+3,1+3,1,1+9,1+j,5+2,1+4,1+j,1p+1"]),
  ("Modifier_Combining_Mark",
    "1p8+1,2,47,6,3+1,hj+1,1+2,3,10"),
  ("Noncharacter_Code_Point",
    String.join [
      "25m0+10,jz+1,2660+1,2660+1,2660+1,2660+1,2660+1,2660+1,2660+1,2660+1,2660+1,2660+1,2660+",
      "1,2660+1,2660+1,2660+1,2660+1,2660+1"]),
  ("Other_Alphabetic",
    String.join [
      "w0,y+d,ll+f,1,1+1,1+1,1,2b+b,1k+d,1+6,j,38+6,4+3,2+1,4,14,z+h,39+b,38+1,3+8,1+2,1+3,3f,1",
      "y+c,3+6,6+m,1r+1,2+g,1+1,5+2,b+1,y+2,1w+6,2+1,2+1,b,b+1,y+2,1w+4,4+1,2+1,4,z+1,3,c+2,1w+",
      "7,1+2,1+1,p+1,q+2,4+2,1w+6,2+1,2+1,9+1,b+1,z,1x+4,3+2,1+2,b,19+4,1v+6,1+2,1+2,8+1,c+1,y+",
      "2,1w+6,1+2,1+2,8+1,c+1,h,d+3,1w+6,1+2,1+2,b,b+1,y+2,2f+5,1,1+7,l+1,1z,2+6,l,36,2+5,1+1,j",
      ",58+l,9+b,1+14,3k+c,1,2+3,r+3,4+2,1+2,2+6,3+3,f+c,1,b+3,1q9+1,z+1,z+1,z+1,24+l,62+1,13,3",
      "t+c,4+8,75+4,1v+9,2+m,2d+1,c+2,1l+4,1k+g,1y+2,z+8,2+1,1v+b,1m+l,f9+12,1ss+1n,2d0+10,112q",
      "+7,13+1,cf,8,r+4,2v+1,1m+h,1,1v,17+4,x+c,1g+3,1k+c,16,25+f,d,8+1,1g+2,1m,1+2,2+1,5,1f+4,",
      "5,7n+7,p31,26w+4,1qw+2,1+1,5+3,tf+3,23,bc+1,2k,8c+2,1q+f,1g+1,c+2,1g+8,9,1z+2,15+c,l+1,1",
      "v+2,1k+d,g+1,2z+8,2,6,2,52+9,r+3,1w+6,2+1,2+1,b,b+1,2q+8,1,2,1+3,1+1,3b+d,1+2,3f+k,7n+6,",
      "2+6,y+1,2n+g,1,3f+b,3b+f,89+d,7z+5,1+1,2+1,3,1,4l+6,2+5,4,x+9,1c+4,1+3,l+b,1h+f,f4+7,1+6",
      ",2p+p,1+f,3y+5,3,1+1,1+2,1,3,24+4,1+1,1+3,c7+3,9+1,1,1k+6,3+2,kjx+j,3rn,1+1r,7+3,30+1,nf",
      "5,9f5+6,1+j,2+6,1+1,1+4,37,29z,239+t,6+t,6+t"]),
  ("Other_Default_Ignorable_Code_Point",
    "wb,3r3+1,1p7+1,29q,4jb,1ry2,2k+8,xlk2,1+y,33+43,7r+3r3"),
  ("Other_Grapheme_Extend",
    String.join [
      "2lg,s,ck,s,39,s,7h,1,4+1,1+1,9+1,3b,s,3v,h,2g1,z,121,5,1,5+1,38,29+1,12t,496+1,118c,3h,q",
      "w2+1,4tp,3r,8j,g,9,33,9,2,1+2,5,77,d,7s,8g,nf,d,1ln,ph8+1,tyr+1,6+5,vss7+32"]),
  ("Other_ID_Continue",
    "5x,r6,474+8,1px,1n4+1,4hs,1rzk"),
  ("Other_ID_Start",
    "6jh+1,28r,p,43c+1"),
  ("Other_Lowercase",
    String.join [
      "5h,h,j5+8,7+1,z+4,33,1p,3lj,37m+20,f,13+15,q7,f,j+d,6t+h,wc+t,20j+1,11jg+1,6s,45+2,3+1,w",
      "y+3,9,sjg,2+2,1+1b,1+8,1vnj+1z"]),
  ("Other_Math",
    String.join [
      "31,xf+2,2,v+1,2+1,7h8,w+2,c,11+3,s+1,g+1,23+d,4,3+1,4+4,l,4,2+9,1,3+4,6,3+1,2+1,1+2,1+5,",
      "3+3,5+4,2f+4,2+3,1+1,1+1,1,1+4,2+1,4+1,4+k,2+1,1,1+6,1,6+1,9c+3,5f+1,1,s,k,gc+1,d+8,5+4,",
      "5+1,2+1,3+4,g,1,2+5,s+1,1v,1,y+3,9+1,c1+1,10+9,f0+p,21+3,11+1,1tkx,1,4,6t,1,1tny+2q,1+28",
      ",1+1,2,2+1,2+3,1+c,1,1+6,1+22,1+3,2+7,1+6,1+w,1+3,1+4,1,3+6,1+by,2+s,1+s,1+z,1+s,1+z,1+s",
      ",1+z,1+s,1+z,1+s,1+7,2+1l,5vp+3,1+v,1+1,1,2,1+9,1+3,1,1,6,4,1,1,1+2,1+1,1,2,1,1,1,1,1+1,",
      "1,2+3,1+6,1+3,1+3,1,1+9,1+j,5+2,1+4,1+j"]),
  ("Other_Uppercase",
    "8wm+h,w1+t,3ymt+t,6+t,6+t"),
  ("Pattern_Syntax",
    String.join [
      "12+g,b+6,v+3,1,v+3,13+6,1,1+1,1,1+1,4,4,3,r,10,88s+r,8+g,2+l,1+9,9v+r6,55+n9,z+15h,jj+43",
      ",df+2,4+s,h,1rmb+1,8f+1"]),
  ("Pattern_White_Space",
    "9+4,l,37,8dd+1,s+1"),
  ("Prepended_Concatenation_Mark",
    "1lk+5,6y,1l,dd+1,2l,288x,h"),
  ("Quotation_Mark",
    "13,4,47,h,8bz+7,t+1,3qv,gr+3,f+2,1rx7+3,63,4,2x+1"),
  ("Radical",
    "dd0+t,1+2v,d+6w"),
  ("Regional_Indicator",
    "48mp+t"),
  ("Sentence_Terminal",
    String.join [
      "12,d,j,1dn,4r+2,5t,1d+2,7y,1z,1,3+1,9g+1,1tx+1,th,4+1,sy,6d+1,52+1,1g,5,b4+1,cf+3,57+1,b",
      "+1,2+1,y+2,61+1,23+1,z2,r+1,9+2,3cr+2,9w,f,q+1,fv,1052,8q+1,7b,3,db+1,2s+1,32,4x+1,4r+2,",
      "4n+1,81,pwd,2+1,1x,3+1,5g,d,j,23,2xg+1,1b6+4,1f+3,63+1,3s+3,43+2,45+1,6,j+1,2v+1,1+1,3h,",
      "9m+1,3s+1,d1+1,5+g,3d+1,81+2,jp,1,83+1,2t+1,fk+1,qb+1,2d+1,n0p+1,49,23+1,c,kv+1,9k,nsb,7",
      "yz"]),
  ("Soft_Dotted",
    String.join [
      "3d+1,6b,92,z,1p,n,bb,35,1,6nr,1n,f,3,48,52,fl,6x+1,2zg,3mvh+1,1m+1,1m+1,1m+1,1m+1,1m+1,1",
      "m+1,1m+1,1m+1,1m+1,1m+1,1m+1,1m+1,28d,9v+1,v"]),
  ("Terminal_Punctuation",
    String.join [
      "12,b,1,c+1,3,vs,8,jk,1v,2b,g,1+2,5t,1d+b,1,7l+1,1r+5,1+7,10,8f+1,19x+1,5k,4+5,b1+1,tg+7,",
      "sy,40+2,29+1,52+2,3,18+3,2+1,b4+1,cf+3,57+1,b+1,1+2,y+2,61+4,20+1,z2,r+1,9+2,3cr+2,9w,f,",
      "4,b,1+1,3+1,ft+1,1051+1,8p+2,7b+4,db+1,2s+1,32,4w+2,4r+2,43,j+1,81,pwd,2+1,1v+2,1+3,5g,b",
      ",1,c+1,3,23,2,13x,1k,16c,6f,b0+1,4x+5,26+5,2w+3,zq+4,1f+3,63+6,3m+3,43+2,45+1,6,j+1,2v+4",
      ",3h,9m+1,3s+2,d+1,ck+3,3+g,3d+1,81+2,jp,1,83+1,2t+1,4+1,fc+2,1g,nt+1,2d+1,1cp+4,lmv+1,49",
      ",23+2,b,kv+1,9j+1,nsb,7yy+3"]),
  ("Unified_Ideograph",
    String.join [
      "fvf+6vm,22+pv4,rzp+1,1,1+1,b,1,1+1,2+2,27r8+1fg1,11+49z,6+74,2+5zv,g+7s1,h+n1,4pm+549,5+",
      "4c6"]),
  ("Uppercase",
    String.join [
      "23+t,38+q,1+6,12,1,1,1,1,1,1,1,1,1,1,1,1,1,1,1,1,1,1,1,1,1,1,1,1,1,1,1,2,1,1,1,1,1,1,1,2",
      ",1,1,1,1,1,1,1,1,1,1,1,1,1,1,1,1,1,1,1,1,1,1,1+1,1,1,3+1,1,1+1,1+2,2+3,1+1,1+2,3+1,1+1,1",
      ",1,1+1,1,2,1+1,1+2,1,1+1,3,7,2,2,2,1,1,1,1,1,1,1,2,1,1,1,1,1,1,1,1,2,2,1+2,1,1,1,1,1,1,1",
      ",1,1,1,1,1,1,1,1,1,1,1,1,1,1,1,1,1,1,1,1,1,1,7+1,1+1,2,1+3,1,1,1,1,9b,1,3,8,6,1+2,1,1+1,",
      "1+j,1+8,14,2+2,3,1,1,1,1,1,1,1,1,1,1,1,5,2,1+1,2+1m,1k,1,1,1,1,1,1,1,1,1,1,1,1,1,1,1,1,9",
      ",1,1,1,1,1,1,1,1,1,1,1,1,1,1,1,1,1,1,1,1,1,1,1,1,1,1,1+1,1,1,1,1,1,1,2,1,1,1,1,1,1,1,1,1",
      ",1,1,1,1,1,1,1,1,1,1,1,1,1,1,1,1,1,1,1,1,1,1,1,1,1,1,1,1,1,1,1,1,1,1,1,1,1,1,2+16,306+16",
      ",1,5,r9+2r,28t,6+1c,2+2,bb,1,1,1,1,1,1,1,1,1,1,1,1,1,1,1,1,1,1,1,1,1,1,1,1,1,1,1,1,1,1,1",
      ",1,1,1,1,1,1,1,1,1,1,1,1,1,1,1,1,1,1,1,1,1,1,1,1,1,1,1,1,1,1,1,1,1,1,1,1,1,1,1,1,1,1,1,9",
      ",1,1,1,1,1,1,1,1,1,1,1,1,1,1,1,1,1,1,1,1,1,1,1,1,1,1,1,1,1,1,1,1,1,1,1,1,1,1,1,1,1,1,1,1",
      ",1,1,1,1,9+7,8+5,b+7,8+7,8+5,c,1,1,1,8+7,2b+3,d+3,d+3,d+4,c+3,8g,4,3+2,2+2,2,3+4,6,1,1,1",
      "+3,2+3,b+1,5,v+h,m,vd+t,1xc+1j,1k,1+2,2,1,1,1+3,1,2,8+2,1,1,1,1,1,1,1,1,1,1,1,1,1,1,1,1,",
      "1,1,1,1,1,1,1,1,1,1,1,1,1,1,1,1,1,1,1,1,1,1,1,1,1,1,1,1,1,1,1,1,1,8,1,4,119q,1,1,1,1,1,1",
      ",1,1,1,1,1,1,1,1,1,1,1,1,1,1,1,1,m,1,1,1,1,1,1,1,1,1,1,1,1,1,4c,1,1,1,1,1,1,3,1,1,1,1,1,",
      "1,1,1,1,1,1,1,1,1,1,1,1,1,1,1,1,1,1,1,1,1,1,1,1,1,b,1,1+1,1,1,1,1,4,1,2,1,3,1,1,1,1,1,1,",
      "1,1,1,1+4,1+4,1,1,1,1,1,1,1,1+3,1,1+1,3,5,1,1,1,s,r6v+t,18d+18,4d+14,51+b,1+g,1+6,1+1,1v",
      "3+1m,52+p,2zq+10,qs2+10,w27+t,v+t,v+t,v,1+1,2,2+1,2+3,1+7,v+t,v+1,1+3,2+7,1+6,w+1,1+3,1+",
      "4,1,3+6,w+t,v+t,v+t,v+t,v+t,v+t,z+s,12+s,12+s,12+s,12+s,12,4l3+12,24j+t,6+t,6+t"]),
  ("Variation_Selector",
    "6dk+2,1,1z7v+h,xmb3+7q"),
  ("White_Space",
    "9+4,l,37,v,5tm,2jf+b,y+1,5,1j,451"),
  ("XID_Continue",
    String.join [
      "1k+9,7+t,4,1+t,1j,b,1,2,5+q,1+z,1+gr,4+c,g+4,7,1,k+3r,1+1,3+2,1,6+4,1,1+m,1+2n,1+4g,1+4,",
      "2+5b,1+16,2,6+19,8+1f,1,1+1,1+1,1,8+v,4+3,y+b,5+2c,4+38,1+7,2+9,1+l,2,j+1w,2+37,g+1q,4,2",
      ",2+1g,l+w,4+b,5+r,1+5,8+2d,1+44,2+9,1+l,1+7,2+1,2+p,1+6,1,3+3,2+8,2+1,2+3,8,4+1,1+4,2+c,",
      "b,1,2+2,1+5,4+1,2+p,1+6,1+1,1+1,1+1,2,1+4,4+1,2+2,3,7+3,1,7+h,c+2,1+8,1+2,1+p,1+6,1+1,1+",
      "4,2+9,1+2,1+2,2,h+3,2+9,9+6,1+2,1+7,2+1,2+p,1+6,1+1,1+4,2+8,2+1,2+2,7+2,4+1,1+4,2+9,1,j+",
      "1,1+5,3+2,1+3,3+1,1,1+1,3+1,3+2,3+c,4+4,3+2,1+3,2,6,g+9,j+d,1+2,1+q,1+h,2+8,1+2,1+3,7+1,",
      "1+2,2,2+3,2+9,j+3,1+7,1+2,1+q,1+9,1+4,2+8,1+2,1+3,7+1,6+1,1+3,2+9,1+2,d+d,1+2,1+1m,1+2,1",
      "+4,5+3,7+4,2+9,b+5,1+2,1+k,3+r,1+8,1,2+6,3,4+5,1,1+7,6+9,2+1,f+1v,5+g,1+9,18+1,1,1+4,1+r",
      ",1,1+q,2+4,1,1+6,1+9,2+3,11,r+1,6+9,c,1,1,4+9,1+14,4+m,1+k,1+14,9,1v+2c,6+2h,2+16,1,5,2+",
      "1c,1+bq,1+3,2+6,1,1+3,2+19,1+3,2+11,1+3,2+6,1,1+3,2+g,1+1t,1+3,2+24,2+2,9+8,g+h,j+2r,2+5",
      ",3+mz,2+j,1+t,5+2d,3+b,7+p,9+p,c+m,d+d,1+2,1+1,d+2p,3,4+1,2+9,12+2,1+b,6+2v,7+1c,5+27,b+",
      "z,1+c,4+c,b+18,2+4,c+1d,4+t,6+b,16+w,4+20,1+x,2+b,6+9,f,8+f,1+h,1l+2g,3+9,k+8,d+3q,d+1s,",
      "8+9,3+1k,2+b,5+1c,2+2,j+2,1+17,5+k6,2+5,2+16,2+5,2+7,1,1,1,1+z,2+1p,1+6,1,3+2,1+6,3+3,2+",
      "5,4+d,5+2,1+6,h+1,1l+1,m,x,f,j+d,1n+d,4,3+c,k,4,2+9,1,2+5,6,1,1,1+h,2+3,5+4,4,k+19,2sf+7",
      "c,6+8,d+16,1,5,2+1s,7,h+r,9+6,1+6,1+6,1+6,1+6,1+6,1+6,1+6,1+10,jp+2,t+g,1+4,2+4,4+2r,2+1",
      ",2+2,1+31,5+1c,1+30,k+10,1k+h,jj+6vm,22+r1q,25+1g,2+8n,3+w,n+1j,4+9,1+3p,16+8,2+39,2+24,",
      "2+1,1,1+7,p+1q,4,m+1n,d+27,b+9,6+r,3,1+1k,2+14,d+x,3+22,g+b,6+z,1+1r,9+f,2+9,6+q,3+2b,s+",
      "2,2+h,2+4,b+5,2+5,2+5,9+6,1+6,1+1c,1+f,6+3y,1+1,2+9,6+cmc,d+q,4+1k,8sn+cs,2+3d,17+6,d+4,",
      "5+c,1+d,1+4,1,1+1,1+1,1+3g,12+4g,6+70,l+21,2+1q,19+9,6+h,j+h,3+1,s+2,12,1,3,1,1,1,1+41,m",
      "+9,7+t,4,1+t,b+2w,3+5,2+5,2+5,2+2,14+c,1+t,1+l,1+1,1+g,2+f,13+3y,27+1p,4d,46+x,3+1k,h,10",
      "+10,f+y,5+1c,5+y,2+14,4+7,1+4,1c+52,2+9,6+14,4+14,4+18,8+1n,d+b,1+g,1+6,1+1,1+b,1+g,1+6,",
      "1+1,3+1n,d+b0,9+p,b+7,s+5,1+1b,1+8,27+5,2,1+1d,1+1,3,2+q,b+q,9+z,23+l,1+1,b+p,b+t,28+1s,",
      "6+1,22+3,1+1,5+7,1+2,1+x,2+2,4,11+x,3+x,14+7,1+y,t+1q,b+p,b+l,f+k,3k+2b,1s+1m,f+1m,f+18,",
      "8+9,6+16,3+4,1+q,82+1b,1+1,3+1,j+2,1s+11,b,8+11,10+p,1c+n,w+q,9+28,10+h,9+1x,7,f+s,7+9,6",
      "+1p,1+9,4+3,8+14,2,9+26,4+3,1+d,1,14+k,1+15,6+3,20+6,1,1+3,1+g,1+9,7+1w,5+9,6+3,1+7,2+1,",
      "2+p,1+6,1+1,1+4,1+9,2+1,2+2,2,6,5+6,2+6,3+4,c+9,1,2,1+16,1+9,1,2,1+3,1+7,f+1,y+2d,5+9,4+",
      "3,z+27,1,8+9,5c+1q,2+8,r+5,13+22,3,c+9,17+1t,7+9,6+m,x+v,2+g,4+9,6+6,5z+1w,38+2c,p+7,2,2",
      "+7,1+1,1+y,1+1,2+8,d+9,28+7,2+1g,2+7,1+1,w+20,8,8+2c,3,l+2b,6f+11,h+9,6+8,1+1f,1+8,h+9,s",
      "+y,2+p,1+f,2c+6,1+1,1+1d,3,1+1,1+8,8+9,6+5,1+1,1+15,1+1,1+5,7+9,b0+q,9+j,1+19,3+4,f+b,2r",
      ",2k+yq,39+3k,k+69,2r1+33,h+13k,j+p,b+44v,5+ls,73p+1v,1sy+lb,7+z,1+9,6+2j,1+9,6+y,2+4,c+1",
      "r,9+3,d+9,9+n,5+l,fy+1f,3+9,6d+21,44+2d,4+1t,7+j,22+1,1+1,c+1,g+6cx,8+18x,1b+9,997+3,1+6",
      ",1+1,1+9c,h,y+2,2,g+3,8+dr,2dg+3f,5+d,3+8,7+9,3+1,4br+9,jq+1g,2+q,kh+4,3+5,8+7,2+6,z+3,4",
      "s+2,g9+2q,1+28,1+1,2,2+1,2+3,1+c,1,1+6,1+22,1+3,2+7,1+6,1+w,1+3,1+4,1,3+6,1+by,2+s,1+s,1",
      "+z,1+s,1+z,1+s,1+z,1+s,1+z,1+s,1+7,2+1l,jj+1r,4+1l,8,g,q+4,1+g,14m+z,6+5,6w+6,1+j,2+6,1+",
      "1,1+4,5+1z,12,3m+1f,3+f,2+9,4,bc+z,k+1v,h5+1b,6x+1c,hn+6,1+3,1+1,1+g,1+6b,c+6,1b+2f,4+9,",
      "17d+3,1+v,1+1,1,2,1+9,1+3,1,1,6,4,1,1,1+2,1+1,1,2,1,1,1,1,1+1,1,2+3,1+6,1+3,1+3,1,1+9,1+",
      "j,5+2,1+4,1+j,3j1+9,127+1fg1,11+49z,6+74,2+5zv,g+7s1,h+n1,2kk+kg,1kl+549,5+4c6,rwx8+7q"]),
  ("XID_Start",
    String.join [
      "23+t,6+t,1j,b,4,5+q,1+z,1+gr,4+c,g+4,7,1,45+4,1+1,3+2,1,6,1+2,1,1+m,1+2n,1+4g,8+5b,1+16,",
      "2,6+19,29+v,4+3,1g+1c,14+1,1+35,1,h+1,7+1,b+2,2,j,1+y,y+2v,c,s+11,9+1,4,5+p,4,9,3,r+s,7+",
      "b,5+r,1+5,k+1b,1w+1q,3,l,7+9,h+h,4+7,2+1,2+p,1+6,1,3+3,3,j,f+1,1+2,g+1,b,8+5,4+1,2+p,1+6",
      ",1+1,1+1,1+1,10+3,1,m+2,j+8,1+2,1+p,1+6,1+1,1+4,3,l,h+1,r,c+7,2+1,2+p,1+6,1+1,1+4,3,z+1,",
      "1+2,h,k,1+5,3+2,1+3,3+1,1,1+1,3+1,3+2,3+c,q,1p+7,1+2,1+q,1+h,3,v+2,2,2+1,z,4+7,1+2,1+q,1",
      "+9,1+4,3,10+1,1+1,h+1,k+8,1+2,1+19,2,j,5+2,8+2,s+5,5+k,3+r,1+8,1,2+6,1w+1j,1,f+6,1w+1,1,",
      "1+4,1+r,1,1+9,1,b,2+4,1,p+3,11,21+7,1+14,w+4,3q+1c,n,j+5,4+3,3,3+1,7+2,4+d,d,k+16,1,5,2+",
      "1c,1+bq,1+3,2+6,1,1+3,2+19,1+3,2+11,1+3,2+6,1,1+3,2+g,1+1t,1+3,2+24,16+h,j+2r,2+5,3+mz,2",
      "+j,1+t,5+2d,3+b,7+k,f+l,g+k,g+d,1+2,h+1n,14,4,25+2v,7+19,1,5+27,b+z,1l+y,2+4,c+1d,4+t,1r",
      "+q,9+1p,2n,30+1h,k+7,1r+y,f+1,b+1d,v+14,1b+2,b+14,2+b,5+1c,2+2,1b+3,1+5,1+1,3,5+65,22+8y",
      ",2+5,2+16,2+5,2+7,1,1,1,1+z,2+1p,1+6,1,3+2,1+6,3+3,2+5,4+d,5+2,1+6,3r,f,j+d,38,4,2+9,1,2",
      "+5,6,1,1,1+h,2+3,5+4,4,k+19,2sf+7c,6+3,3+1,d+16,1,5,2+1s,7,j+q,9+6,1+6,1+6,1+6,1+6,1+6,1",
      "+6,1+6,kr+2,t+8,7+4,2+4,4+2r,6+2,1+2w,1+3,5+1c,1+30,k+10,1k+h,jj+6vm,22+r1q,25+1g,2+8n,3",
      "+h,b+1,n+1h,j+z,2+2k,18+8,2+39,2+24,2+1,1,1+7,p+h,1+2,1+3,1+q,y+1n,g+1l,20+5,3,1+1,c+w,b",
      "+q,t+x,7+1h,x,j+4,1+9,b+4,1+19,r+2,1+7,n+q,3,3+1l,1,3+1,2+4,2,1,s+2,2+b,7+2,d+5,2+5,2+5,",
      "9+6,1+6,1+1c,1+f,6+3p,y+cmc,d+q,4+1k,8sn+cs,2+3d,17+6,d+4,5,1+9,1+d,1+4,1,1+1,1+1,1+3g,1",
      "2+4g,6+70,l+21,2+1q,19+9,3v,1,3,1,1,1,1+41,15+t,6+t,c+1s,2+z,3+5,2+5,2+5,2+2,14+c,1+t,1+",
      "l,1+1,1+g,2+f,13+3y,27+1p,8m+x,3+1k,1j+10,f+y,5+16,b+y,2+14,4+7,1+4,1c+52,l+14,4+14,4+18",
      ",8+1n,d+b,1+g,1+6,1+1,1+b,1+g,1+6,1+1,3+1n,d+b0,9+p,b+7,s+5,1+1b,1+8,27+5,2,1+1d,1+1,3,2",
      "+q,b+q,9+z,23+l,1+1,b+p,b+t,28+1s,6+1,22,h+3,1+2,1+x,1c+x,3+x,14+7,1+w,w+1q,b+p,b+l,f+k,",
      "3k+2b,1s+1m,f+1m,f+14,17+w,9+q,82+1b,6+1,j+2,1x+x,b,8+p,1c+k,1h+n,w+q,d+1p,1v+1,2,f+1f,1",
      "1+s,v+14,y,2,8+13,3,d+1j,g+3,p,1,14+k,1+s,m+1,21+6,1,1+3,1+g,1+9,7+1h,17+7,2+1,2+p,1+6,1",
      "+1,1+4,3,l,d+4,z+9,1,2,1+16,1,t,1,1f+1p,l+3,n+2,z+1j,n+1,1,5y+1h,1b+3,15+1j,n,1x+1c,f,29",
      "+v,16+6,5z+1d,3r+21,10+7,2,2+7,1+1,1+r,h,1,31+7,2+17,j,1,x,b+18,7,p,c+1g,m,l+2b,6f+11,10",
      "+8,1+15,k,1l+y,3m+6,1+1,1+16,p,t+5,1+1,1+10,g,bk+l,h,1+d,1+12,40,2k+yq,39+3k,k+69,2r1+33",
      ",h+13k,k+5,t+44v,5+ls,73p+y,1tv+lb,7+z,k+2j,k+y,l+1j,j+3,10+n,5+l,fy+1f,6t+21,44+2d,5,24",
      "+d,22+1,1,x+6cx,8+18x,1b+9,997+3,1+6,1+1,1+9c,h,y+2,2,g+3,8+dr,2dg+3f,5+d,3+8,7+9,677+2q",
      ",1+28,1+1,2,2+1,2+3,1+c,1,1+6,1+22,1+3,2+7,1+6,1+w,1+3,1+4,1,3+6,1+by,2+s,1+s,1+z,1+s,1+",
      "z,1+s,1+z,1+s,1+z,1+s,1+7,1xh+z,6+5,8f+1z,4q+1f,b+6,j,bc+y,l+1d,hm+w,7c+y,2,hz+6,1+3,1+1",
      ",1+g,1+6b,1x+25,7,17v+3,1+v,1+1,1,2,1+9,1+3,1,1,6,4,1,1,1+2,1+1,1,2,1,1,1,1,1+1,1,2+3,1+",
      "6,1+3,1+3,1,1+9,1+j,5+2,1+4,1+j,4ll+1fg1,11+49z,6+74,2+5zv,g+7s1,h+n1,2kk+kg,1kl+549,5+4",
      "c6"])]

end Unicode

end Conformance
