/-!
# Break properties

The code points of each value of the grapheme cluster, word and sentence break
properties, by the value's long name.  The default value `Other` has no table.

Each table is a text in the compact form that `Ranges.ofCompact` reads: the ranges in
ascending order, each written as the gap from the end of the previous range (from 0 for
the first) and, after `+`, its length less one, both in base 31 with the digits `0`–`9`
and the consonants `b`–`z`.
-/

namespace Conformance

namespace Unicode

/-- Each value of the grapheme cluster break property with its code points. -/
def graphemeBreakTables : List (String × String) := [
  ("CR",
    "f"),
  ("Control",
    String.join [
      "0+9,1+1,1+k,32+11,f,1fv,4s5,23y,2+1,s+6,1l+h,1x8x,7r+c,fx3+h,15b6+3,5jv+7,vsqy+10,33+43,",
      "7r+3r3"]),
  ("Extend",
    String.join [
      "ss+3l,8w+6,8h+1f,1,1+1,1+1,1,2b+b,1k+n,j,38+6,2+5,2+1,1+3,14,z+v,2y+b,1w+8,9,s+3,1+8,1+2",
      ",1+4,1d+2,1x+8,1c+r,1+10,1s,1,4+7,4,3+6,b+1,y,1w,1,2+3,8,9,b+1,v,2+1,1v,4+1,4+1,2+2,3,z+",
      "1,3,c+1,1v,4+4,1+1,4,n+1,q+5,1,1w,1+1,1+3,8,7+2,b+1,z,1x,1,d,9,19,3,1s,1+2,5+2,1+3,7+1,c",
      "+1,y,1w,2+1,1,3+2,1+3,7+1,c+1,x+1,1v+1,1,2+3,8,9,b+1,y,2b,4,2+2,1,8,2m,2+6,d+7,35,2+8,c+",
      "6,2c+1,w,1,1,1s+f,1+4,1+1,5+b,1+14,9,39+3,1+5,1+1,2+1,t+1,4+2,j+3,f,2+1,6,h,qp+2,zj+3,x+",
      "2,y+1,z+1,22+1,1+6,8,2+b,9,1g+2,1,3s+1,13,3t+2,4+1,9,6+2,72+1,2,1w,1+6,1,1,2+7,6+9,2,1k+",
      "z,1l+3,1k+9,4+2,17+8,d+1,11+3,2+5,1t,1+1,3,1+4,1t+7,2+1,4x+2,1+d,1+6,4,6,3+1,6d+21,jx,69",
      "+11,361+2,4k,33+10,kw+5,3d+1,10d1+3,1+9,11+1,2l+1,8s,3,4,t+1,5,4w+1,v+k,f,17+7,t+b,1,1f+",
      "2,1k,2+3,2+1,2,15,25+5,2+1,2+1,d,8,1j,1n,1+2,2+1,5+1,1,1c+1,8,7p,2,4,p2y,rs+h,j+h,ct+1,m",
      "j,79,4t+4,1qw+2,1+1,5+3,19+2,4,5b+1,lh+3,23+4,b7+1,2k+3,28+b,1l+3,3z,1r+g,1b,2+1,b+2,1l+",
      "3,2+1,7,1z+2,15+4,1+7,20,d+1,1p+8,1,8+3,2,32+2,2+3,6,2,52,3+7,p+1,1v+1,1,1,d,9,g+6,3+4,2",
      "5,2+5,1,2,1+2,4+2,1,g+1,2r+7,2+2,1,r,2m,2+5,1,2,1+1,1+1,7l,2+3,6+1,1+1,w+1,2r+7,2,1+1,3f",
      ",1,2+7,38,1,2+3,1+4,8c+8,1+1,7x,b+3,4,4n+3,2+1,4,11+9,19+5,2+3,8,9+5,2+2,1h+d,1+1,f3+6,1",
      "+5,1,2n+p,2+6,1+1,1+1,3y+5,3,1+1,1+6,1,2b+1,3,1,c6+1,c+1,1p+4,5+2,r,5kk,6+g,cxt+c,3+2,2l",
      "j+4,1x+6,12t,21+3,2m,c+1,nf4+1,4ws+1g,2+q,kh+4,3+5,8+7,2+6,z+3,4s+2,21v+1r,4+1l,8,g,q+4,",
      "1+g,1dw+6,1+j,2+6,1+1,1+4,37,55+6,d3,1z+3,jd+3,86+1,rr+6,3j+6,2v8+4,vhkx+32,44+7q"]),
  ("L",
    "4jd+32,19h7+x"),
  ("LF",
    "b"),
  ("LV",
    String.join [
      "1gtd,w,w,w,w,w,w,w,w,w,w,w,w,w,w,w,w,w,w,w,w,w,w,w,w,w,w,w,w,w,w,w,w,w,w,w,w,w,w,w,w,w,w",
      ",w,w,w,w,w,w,w,w,w,w,w,w,w,w,w,w,w,w,w,w,w,w,w,w,w,w,w,w,w,w,w,w,w,w,w,w,w,w,w,w,w,w,w,w",
      ",w,w,w,w,w,w,w,w,w,w,w,w,w,w,w,w,w,w,w,w,w,w,w,w,w,w,w,w,w,w,w,w,w,w,w,w,w,w,w,w,w,w,w,w",
      ",w,w,w,w,w,w,w,w,w,w,w,w,w,w,w,w,w,w,w,w,w,w,w,w,w,w,w,w,w,w,w,w,w,w,w,w,w,w,w,w,w,w,w,w",
      ",w,w,w,w,w,w,w,w,w,w,w,w,w,w,w,w,w,w,w,w,w,w,w,w,w,w,w,w,w,w,w,w,w,w,w,w,w,w,w,w,w,w,w,w",
      ",w,w,w,w,w,w,w,w,w,w,w,w,w,w,w,w,w,w,w,w,w,w,w,w,w,w,w,w,w,w,w,w,w,w,w,w,w,w,w,w,w,w,w,w",
      ",w,w,w,w,w,w,w,w,w,w,w,w,w,w,w,w,w,w,w,w,w,w,w,w,w,w,w,w,w,w,w,w,w,w,w,w,w,w,w,w,w,w,w,w",
      ",w,w,w,w,w,w,w,w,w,w,w,w,w,w,w,w,w,w,w,w,w,w,w,w,w,w,w,w,w,w,w,w,w,w,w,w,w,w,w,w,w,w,w,w",
      ",w,w,w,w,w,w,w,w,w,w,w,w,w,w,w,w,w,w,w,w,w,w,w,w,w,w,w,w,w,w,w,w,w,w,w,w,w,w,w,w,w,w,w,w",
      ",w,w,w,w"]),
  ("LVT",
    String.join [
      "1gtf+v,1+v,1+v,1+v,1+v,1+v,1+v,1+v,1+v,1+v,1+v,1+v,1+v,1+v,1+v,1+v,1+v,1+v,1+v,1+v,1+v,1",
      "+v,1+v,1+v,1+v,1+v,1+v,1+v,1+v,1+v,1+v,1+v,1+v,1+v,1+v,1+v,1+v,1+v,1+v,1+v,1+v,1+v,1+v,1",
      "+v,1+v,1+v,1+v,1+v,1+v,1+v,1+v,1+v,1+v,1+v,1+v,1+v,1+v,1+v,1+v,1+v,1+v,1+v,1+v,1+v,1+v,1",
      "+v,1+v,1+v,1+v,1+v,1+v,1+v,1+v,1+v,1+v,1+v,1+v,1+v,1+v,1+v,1+v,1+v,1+v,1+v,1+v,1+v,1+v,1",
      "+v,1+v,1+v,1+v,1+v,1+v,1+v,1+v,1+v,1+v,1+v,1+v,1+v,1+v,1+v,1+v,1+v,1+v,1+v,1+v,1+v,1+v,1",
      "+v,1+v,1+v,1+v,1+v,1+v,1+v,1+v,1+v,1+v,1+v,1+v,1+v,1+v,1+v,1+v,1+v,1+v,1+v,1+v,1+v,1+v,1",
      "+v,1+v,1+v,1+v,1+v,1+v,1+v,1+v,1+v,1+v,1+v,1+v,1+v,1+v,1+v,1+v,1+v,1+v,1+v,1+v,1+v,1+v,1",
      "+v,1+v,1+v,1+v,1+v,1+v,1+v,1+v,1+v,1+v,1+v,1+v,1+v,1+v,1+v,1+v,1+v,1+v,1+v,1+v,1+v,1+v,1",
      "+v,1+v,1+v,1+v,1+v,1+v,1+v,1+v,1+v,1+v,1+v,1+v,1+v,1+v,1+v,1+v,1+v,1+v,1+v,1+v,1+v,1+v,1",
      "+v,1+v,1+v,1+v,1+v,1+v,1+v,1+v,1+v,1+v,1+v,1+v,1+v,1+v,1+v,1+v,1+v,1+v,1+v,1+v,1+v,1+v,1",
      "+v,1+v,1+v,1+v,1+v,1+v,1+v,1+v,1+v,1+v,1+v,1+v,1+v,1+v,1+v,1+v,1+v,1+v,1+v,1+v,1+v,1+v,1",
      "+v,1+v,1+v,1+v,1+v,1+v,1+v,1+v,1+v,1+v,1+v,1+v,1+v,1+v,1+v,1+v,1+v,1+v,1+v,1+v,1+v,1+v,1",
      "+v,1+v,1+v,1+v,1+v,1+v,1+v,1+v,1+v,1+v,1+v,1+v,1+v,1+v,1+v,1+v,1+v,1+v,1+v,1+v,1+v,1+v,1",
      "+v,1+v,1+v,1+v,1+v,1+v,1+v,1+v,1+v,1+v,1+v,1+v,1+v,1+v,1+v,1+v,1+v,1+v,1+v,1+v,1+v,1+v,1",
      "+v,1+v,1+v,1+v,1+v,1+v,1+v,1+v,1+v,1+v,1+v,1+v,1+v,1+v,1+v,1+v,1+v,1+v,1+v,1+v,1+v,1+v,1",
      "+v,1+v,1+v,1+v,1+v,1+v,1+v,1+v,1+v,1+v,1+v,1+v,1+v,1+v,1+v,1+v,1+v,1+v,1+v,1+v,1+v,1+v,1",
      "+v,1+v,1+v,1+v,1+v,1+v,1+v,1+v,1+v,1+v,1+v,1+v,1+v,1+v,1+v,1+v,1+v,1+v,1+v,1+v,1+v,1+v,1",
      "+v,1+v,1+v,1+v,1+v,1+v,1+v,1+v,1+v,1+v,1+v,1+v,1+v,1+v,1+v,1+v,1+v,1+v,1+v,1+v,1+v,1+v,1",
      "+v,1+v,1+v,1+v"]),
  ("Prepend",
    "1lk+5,6y,1l,dd+1,2l,15h,273d,h,7w+1,jy,1ft,1,80,2c+5,ql,g9"),
  ("Regional_Indicator",
    "48mp+t"),
  ("SpacingMark",
    String.join [
      "2df,1s,2+2,8+3,1+1,1m+1,1x+1,6+1,2+1,1r,1w+2,24,1w+2,8,1+1,1q+1,1y,6+1,2+1,3p,1+1,3+2,1+",
      "2,1p+2,1z+3,1z+1,1w,2,1+1,1h,g+1,1x+1,5+2,1+2,1q+1,2g+1,6+6,m+1,21,43,4g+1,21,5q,9+1,t+1",
      ",1f,1xd,7+7,1+1,c5+3,2+2,4+1,1+5,77+1,1w,1,p+5,4p,1v+3,22,z,4+1,21,2+2,1,1q+7,8+1,5j,p,1",
      "628+1,2,2v+1,1m+h,4l,1k,1k+1,4+1,2+1,3l+1,2+1,s,52,2+1,5,7n+1,1+1,1+1,1,vnf,1,43,1g+2,4+",
      "1,3q,s+1,1x,1k+2,9,g,30+2,3+1,5k+2,10+1,1x,1+3,2+1,2+1,p+1,2r+1,h,1+1,3b+2,8+1,3,3g+1,6,",
      "1+1,1,2,7p+1,6+3,2,3n+2,8+1,1,3j,1+1,3k,7,8f+2,9,80+4,1+1,7,1,4l+2,8+3,4,2q,y+1,20,f4,g,",
      "3f,7,2,6w+4,4+1,1,c9+1,d,1k+1,8+1,kkb+2,3rs+1r"]),
  ("T",
    "4pt+2t,1ppd+1k"),
  ("V",
    "4mh+29,1prc+q,18vh,3+3"),
  ("ZWJ",
    "8jp")]

/-- Each value of the word break property with its code points. -/
def wordBreakTables : List (String × String) := [
  ("ALetter",
    String.join [
      "23+t,6+t,1j,b,4,5+q,1+z,1+hg,6+12,3m+4,1+1,2+3,1,6,1+2,1,1+m,1+2n,1+4g,8+5b,1+16,2+3,1,1",
      "+19,1,3c,1f+1c,14+1,1+35,1,h+1,7+1,b+2,2,h+1,1+y,y+2v,c,s+11,9+1,4,5+p,4,9,3,r+s,7+b,5+r",
      ",1+5,k+1b,1w+1q,3,l,7+9,h+h,4+7,2+1,2+p,1+6,1,3+3,3,j,f+1,1+2,g+1,b,8+5,4+1,2+p,1+6,1+1,",
      "1+1,1+1,10+3,1,m+2,j+8,1+2,1+p,1+6,1+1,1+4,3,l,h+1,r,c+7,2+1,2+p,1+6,1+1,1+4,3,z+1,1+2,h",
      ",k,1+5,3+2,1+3,3+1,1,1+1,3+1,3+2,3+c,q,1p+7,1+2,1+q,1+h,3,v+2,2,2+1,z,4+7,1+2,1+q,1+9,1+",
      "4,3,10+1,1+1,h+1,k+8,1+2,1+19,2,j,5+2,8+2,s+5,5+k,3+r,1+8,1,2+6,b3,21+7,1+14,w+4,8w+16,1",
      ",5,2+1c,1+bq,1+3,2+6,1,1+3,2+19,1+3,2+11,1+3,2+6,1,1+3,2+g,1+1t,1+3,2+24,16+h,j+2r,2+5,3",
      "+mz,2+j,1+t,5+2d,3+b,7+k,f+l,g+k,g+d,1+2,5n+2v,7+4,2+12,1,5+27,b+z,78+q,7p+1h,k+7,1r+y,f",
      "+1,b+1d,v+14,1b+2,b+14,2+b,5+1c,2+2,1b+3,1+5,1+1,3,5+65,22+8y,2+5,2+16,2+5,2+7,1,1,1,1+z",
      ",2+1p,1+6,1,3+2,1+6,3+3,2+5,4+d,5+2,1+6,3r,f,j+d,38,4,2+9,1,3+4,6,1,1,1+3,1+b,2+3,5+4,4,",
      "k+19,v7+1n,1wj+7c,6+3,3+1,d+16,1,5,2+1s,7,j+q,9+6,1+6,1+6,1+6,1+6,1+6,1+6,1+6,2l,h4,1q+1",
      ",6g+1c,1+30,k+10,ycg+16k,25+1g,2+8n,3+h,b+1,n+1h,j+z,2+2k,s+6c,2+1,1,1+7,p+h,1+2,1+3,1+q",
      ",y+1n,g+1l,20+5,3,1+1,c+w,b+q,t+x,7+1h,x,1k+19,r+2,1+7,4s+b,7+2,d+5,2+5,2+5,9+6,1+6,1+1v",
      ",6+3p,y+cmc,d+q,4+1k,9b5+6,d+4,1t+34,12+cp,l+21,2+1q,19+c,3r+4,1+4b,15+t,6+t,27+z,3+5,2+",
      "5,2+5,2+2,14+c,1+t,1+l,1+1,1+g,2+f,13+3y,27+1p,8m+x,3+1k,1j+10,f+y,5+16,b+y,2+14,4+7,1+4",
      ",1c+52,l+14,4+14,4+18,8+1n,d+b,1+g,1+6,1+1,1+b,1+g,1+6,1+1,3+1n,d+b0,9+p,b+7,s+5,1+1b,1+",
      "8,27+5,2,1+1d,1+1,3,2+q,b+q,9+z,23+l,1+1,b+p,b+t,28+1s,6+1,22,h+3,1+2,1+x,1c+x,3+x,14+7,",
      "1+w,w+1q,b+p,b+l,f+k,3k+2b,1s+1m,f+1m,f+14,17+w,9+q,82+1b,6+1,j+2,1x+x,b,8+p,1c+k,1h+n,w",
      "+q,d+1p,1v+1,2,f+1f,11+s,v+14,y,2,8+13,3,d+1j,g+3,p,1,14+k,1+s,m+1,21+6,1,1+3,1+g,1+9,7+",
      "1h,17+7,2+1,2+p,1+6,1+1,1+4,3,l,d+4,z+9,1,2,1+16,1,t,1,1f+1p,l+3,n+2,z+1j,n+1,1,5y+1h,1b",
      "+3,15+1j,n,1x+1c,f,bk+1d,3r+21,10+7,2,2+7,1+1,1+r,h,1,31+7,2+17,j,1,x,b+18,7,p,c+1g,m,l+",
      "2b,6f+11,10+8,1+15,k,1l+y,3m+6,1+1,1+16,p,t+5,1+1,1+10,g,bk+l,h,1+d,1+12,40,2k+yq,39+3k,",
      "k+69,2r1+33,h+13k,k+5,t+44v,5+ls,73p+y,1tv+lb,7+z,k+2j,k+y,l+1j,j+3,10+n,5+l,fy+1f,6t+21",
      ",44+2d,5,24+d,22+1,1,n8j+3f,5+d,3+8,7+9,677+2q,1+28,1+1,2,2+1,2+3,1+c,1,1+6,1+22,1+3,2+7",
      ",1+6,1+w,1+3,1+4,1,3+6,1+by,2+s,1+s,1+z,1+s,1+z,1+s,1+z,1+s,1+z,1+s,1+7,1xh+z,6+5,8f+1z,",
      "4q+1f,b+6,j,bc+y,l+1d,hm+w,7c+y,2,hz+6,1+3,1+1,1+g,1+6b,1x+25,7,17v+3,1+v,1+1,1,2,1+9,1+",
      "3,1,1,6,4,1,1,1+2,1+1,1,2,1,1,1,1,1+1,1,2+3,1+6,1+3,1+3,1,1+9,1+j,5+2,1+4,1+j,n8+t,6+t,6",
      "+t"]),
  ("CR",
    "f"),
  ("Double_Quote",
    "13"),
  ("Extend",
    String.join [
      "ss+3l,8w+6,8h+1f,1,1+1,1+1,1,2b+b,1k+n,j,38+6,2+5,2+1,1+3,14,z+v,2y+b,1w+8,9,s+3,1+8,1+2",
      ",1+4,1d+2,1x+8,1c+r,1+11,1r+2,1+k,1+6,b+1,y+2,1t,1+6,2+1,2+2,9,b+1,v,2+2,1t,1+4,4+1,2+2,",
      "3,z+1,3,c+2,1t,1+7,1+2,1+2,n+1,q+5,1+2,1t,1+6,2+1,2+2,7+2,b+1,z,1x+4,3+2,1+3,9,19+4,1s,1",
      "+6,1+2,1+3,7+1,c+1,y+2,1t,1+6,1+2,1+3,7+1,c+1,h,d+3,1s+1,1+6,1+2,1+3,9,b+1,y+2,28,4+5,1,",
      "1+7,l+1,1z,2+6,d+7,35,2+8,c+6,2c+1,w,1,1,4+1,1l+m,1+1,5+b,1+14,9,37+m,r+3,4+2,1+2,2+6,3+",
      "3,f+c,1,b+3,qp+2,zj+3,x+2,y+1,z+1,22+10,9,1g+2,1,3s+1,13,3t+c,4+c,72+4,1v+9,1+x,2,1k+z,1",
      "l+4,1j+j,17+8,d+2,z+d,1t+f,1k+m,4x+2,1+n,4,6,2+2,6d+21,jx,69+11,361+2,4k,33+10,kw+5,3d+1",
      ",10d1+3,1+9,11+1,2l+1,8s,3,4,r+4,4,2p+1,1m+k,v+k,f,17+7,t+d,1f+3,1j+f,15,25+f,d,8+1,1g+2",
      ",1m,1+2,2+1,5+1,1,1b+4,5+1,7m+7,1+1,p2y,rs+h,j+h,ct+1,mj,79,4t+4,1qw+2,1+1,5+3,19+2,4,5b",
      "+1,lh+3,23+4,b7+1,2k+3,28+b,1l+3,3y+2,1q+g,1b,2+1,b+3,1g+b,7,1z+2,15+f,j+1,1f,d+2,1k+f,8",
      "+3,1+1,2z+c,6,2,52+c,p+3,1s+1,1+6,2+1,2+2,9,b+1,2+6,3+4,25+8,1,2,1+3,1+4,1,g+1,2n+k,r,2m",
      "+m,7l+6,2+8,w+1,2n+j,3f+d,38+g,88+g,7x+5,1+1,2+3,1,1+1,4k+6,2+6,3,x+9,19+6,1+3,8,9+b,1h+",
      "h,f2+7,1+7,2n+p,1+f,3y+5,3,1+1,1+6,1,24+4,1+1,1+4,c6+3,9+1,1,1k+6,3+4,r,5kk,6+g,cxt+k,2l",
      "j+4,1x+6,12t,1+1r,7+3,2m,c+1,nf4+1,4ws+1g,2+q,kh+4,3+5,8+7,2+6,z+3,4s+2,21v+1r,4+1l,8,g,",
      "q+4,1+g,1dw+6,1+j,2+6,1+1,1+4,37,55+6,d3,1z+3,jd+3,86+1,rr+6,3j+6,2v8+4,vhkx+32,44+7q"]),
  ("ExtendNumLet",
    "32,8gp,h+1,m,1x36+1,s+2,7q"),
  ("Format",
    "5l,1fv,4s5,241+1,v+4,1l+4,1+9,1x8x,81+2,fx3+h,15b6+3,5jv+7,vsqz"),
  ("Hebrew_Letter",
    "1k0+v,4+3,239l,1+9,1+d,1+4,1,1+1,1+1,1+9"),
  ("Katakana",
    "dtz+4,38+1,3+2x,1+3,7r+h,6q+1h,1+2t,1rc3+1s,1hz2+3,1+6,1+1,1,98+2,1m,g+3"),
  ("LF",
    "b"),
  ("MidLetter",
    "1w,40,r6,h6,4s,6zb,1x3m,23,6b"),
  ("MidNum",
    "1f,g,vx,jv,46+1,31,dr,6gm,1x4n,3,5x,g"),
  ("MidNumLet",
    "1h,8hj+1,b,1x5r,5t,6"),
  ("Newline",
    "c+1,3w,8f7+1"),
  ("Numeric",
    String.join [
      "1k+9,1jp+5,2x+9,1,3n,l+9,6d+9,6d+1,2l,47+9,3t+9,3t+9,3t+9,3t+9,3t+9,3t+9,3t+9,3t+9,3t+9,",
      "33+9,3t+9,28+9,8z+9,28+9,1y2+9,17+9,9p+9,44+b,5b+9,6+9,5w+9,2s+9,4b+9,6+9,15pr+9,pw+9,17",
      "+9,6d+9,q+9,2s+9,f3+9,q44+9,1gm+9,28d+9,6+9,tp+9,2h,h,13+9,1y+9,4n+9,8z+9,c1+9,3t+9,d2+9",
      ",39+9,6+m,2g+9,fm+9,39+9,pc+9,2s+9,7y+9,28+9,fm+9,kjp+9,2fk+9,2s+9,4b+9,k7+9,tfb+9,2wf+1",
      "l,2gd+9,fm+9,j6+9,7z+9,wj+9,4yh+9"]),
  ("Regional_Indicator",
    "48mp+t"),
  ("Single_Quote",
    "18"),
  ("WSegSpace",
    "11,5yr,2jf+6,1+2,2q,451"),
  ("ZWJ",
    "8jp")]

/-- Each value of the sentence break property with its code points. -/
def sentenceBreakTables : List (String × String) := [
  ("ATerm",
    "1h,8hx,1x5r,61"),
  ("CR",
    "f"),
  ("Close",
    String.join [
      "13,4+2,1l,1,y,1,1g,h,3vp+3,1yt+1,2j9+7,t+1,b+1,1r+1,g+1,nf+3,y+1,13l+5,7+f,2k+1,10+9,f0+",
      "p,21+3,11+1,123+f,g+1,2+9,s,l+7,fs+9,2+7,1+2,1rmw+1,6y+1,x+h,2+1,j+5,5g+1,1l,1,y,1,1+1,1",
      "+1,23tb+2"]),
  ("Extend",
    String.join [
      "ss+3l,8w+6,8h+1f,1,1+1,1+1,1,2b+b,1k+n,j,38+6,2+5,2+1,1+3,14,z+v,2y+b,1w+8,9,s+3,1+8,1+2",
      ",1+4,1d+2,1x+8,1c+r,1+11,1r+2,1+k,1+6,b+1,y+2,1t,1+6,2+1,2+2,9,b+1,v,2+2,1t,1+4,4+1,2+2,",
      "3,z+1,3,c+2,1t,1+7,1+2,1+2,n+1,q+5,1+2,1t,1+6,2+1,2+2,7+2,b+1,z,1x+4,3+2,1+3,9,19+4,1s,1",
      "+6,1+2,1+3,7+1,c+1,y+2,1t,1+6,1+2,1+3,7+1,c+1,h,d+3,1s+1,1+6,1+2,1+3,9,b+1,y+2,28,4+5,1,",
      "1+7,l+1,1z,2+6,d+7,35,2+8,c+6,2c+1,w,1,1,4+1,1l+m,1+1,5+b,1+14,9,37+m,r+3,4+2,1+2,2+6,3+",
      "3,f+c,1,b+3,qp+2,zj+3,x+2,y+1,z+1,22+10,9,1g+2,1,3s+1,13,3t+c,4+c,72+4,1v+9,1+x,2,1k+z,1",
      "l+4,1j+j,17+8,d+2,z+d,1t+f,1k+m,4x+2,1+n,4,6,2+2,6d+21,jx+1,68+11,361+2,4k,33+10,kw+5,3d",
      "+1,10d1+3,1+9,11+1,2l+1,8s,3,4,r+4,4,2p+1,1m+k,v+k,f,17+7,t+d,1f+3,1j+f,15,25+f,d,8+1,1g",
      "+2,1m,1+2,2+1,5+1,1,1b+4,5+1,7m+7,1+1,p2y,rs+h,j+h,ct+1,mj,79,4t+4,1qw+2,1+1,5+3,19+2,4,",
      "5b+1,lh+3,23+4,b7+1,2k+3,28+b,1l+3,3y+2,1q+g,1b,2+1,b+3,1g+b,7,1z+2,15+f,j+1,1f,d+2,1k+f",
      ",8+3,1+1,2z+c,6,2,52+c,p+3,1s+1,1+6,2+1,2+2,9,b+1,2+6,3+4,25+8,1,2,1+3,1+4,1,g+1,2n+k,r,",
      "2m+m,7l+6,2+8,w+1,2n+j,3f+d,38+g,88+g,7x+5,1+1,2+3,1,1+1,4k+6,2+6,3,x+9,19+6,1+3,8,9+b,1",
      "h+h,f2+7,1+7,2n+p,1+f,3y+5,3,1+1,1+6,1,24+4,1+1,1+4,c6+3,9+1,1,1k+6,3+4,r,5kk,6+g,cxt+k,",
      "2lj+4,1x+6,12t,1+1r,7+3,2m,c+1,nf4+1,4ws+1g,2+q,kh+4,3+5,8+7,2+6,z+3,4s+2,21v+1r,4+1l,8,",
      "g,q+4,1+g,1dw+6,1+j,2+6,1+1,1+4,37,55+6,d3,1z+3,jd+3,86+1,rr+6,3j+6,vlfb+32,44+7q"]),
  ("Format",
    "5l,1fv,7t,4jb,23y,2+1,v+4,1l+4,1+9,1x8x,81+2,fx3+h,15b6+3,5jv+7,vsqz"),
  ("LF",
    "b"),
  ("Lower",
    String.join [
      "34+t,1j,b,4,15+r,1+7,1,1,1,1,1,1,1,1,1,1,1,1,1,1,1,1,1,1,1,1,1,1,1,1,1,1,1,1+1,1,1,1,1,1",
      ",1,1,1+1,1,1,1,1,1,1,1,1,1,1,1,1,1,1,1,1,1,1,1,1,1,1,1,2,1,1+2,2,1,2,3+1,4,2,3+2,2,2,1,1",
      ",2,1+1,1,2,3,1,2+1,2+2,6,2,2,1,1,1,1,1,1,1,1+1,1,1,1,1,1,1,1,1,1+1,2,1,3,1,1,1,1,1,1,1,1",
      ",1,1,1,1,1,1,1,1,1,1,1,1,1,1,1,1,1,1,1,1,1+6,2,2+1,1,4,1,1,1,1+26,1+14,7+1,z+4,4j,1,3,2+",
      "3,l,w+13,1+1,3+2,1,1,1,1,1,1,1,1,1,1,1,1+4,1,2,2+1,1n+1j,1,1,1,1,1,1,1,1,1,1,1,1,1,1,1,1",
      ",1,9,1,1,1,1,1,1,1,1,1,1,1,1,1,1,1,1,1,1,1,1,1,1,1,1,1,1,2,1,1,1,1,1,1+1,1,1,1,1,1,1,1,1",
      ",1,1,1,1,1,1,1,1,1,1,1,1,1,1,1,1,1,1,1,1,1,1,1,1,1,1,1,1,1,1,1,1,1,1,1,1,1,1,1,1,1k+19,3",
      "1k,sm+5,288+8,1,3s+65,23,1,1,1,1,1,1,1,1,1,1,1,1,1,1,1,1,1,1,1,1,1,1,1,1,1,1,1,1,1,1,1,1",
      ",1,1,1,1,1,1,1,1,1,1,1,1,1,1,1,1,1,1,1,1,1,1,1,1,1,1,1,1,1,1,1,1,1,1,1,1,1,1,1,1,1,1+8,1",
      ",1,1,1,1,1,1,1,1,1,1,1,1,1,1,1,1,1,1,1,1,1,1,1,1,1,1,1,1,1,1,1,1,1,1,1,1,1,1,1,1,1,1,1,1",
      ",1,1,1,1+8,8+5,b+7,8+7,8+5,b+7,8+7,8+f,2+7,8+7,8+7,8+4,1+1,6,3+2,1+1,8+3,2+1,8+7,b+2,1+1",
      ",3x,f,j+d,3j,3+1,3,w,4,4,2+1,8+3,4,12+h,4,w6+t,1y2+1j,1,3+1,1,1,1,4,1+1,1+7,3,1,1,1,1,1,",
      "1,1,1,1,1,1,1,1,1,1,1,1,1,1,1,1,1,1,1,1,1,1,1,1,1,1,1,1,1,1,1,1,1,1,1,1,1,1,1,1,1,1,1,1+",
      "1,7,1,4,d+16,1,5,117v,1,1,1,1,1,1,1,1,1,1,1,1,1,1,1,1,1,1,1,1,1,1,m,1,1,1,1,1,1,1,1,1,1,",
      "1,1,1+2,49,1,1,1,1,1,1+2,1,1,1,1,1,1,1,1,1,1,1,1,1,1,1,1,1,1,1,1,1,1,1,1,1,1,1,1,1,1,1+9",
      ",1,1,2,1,1,1,1,4,1,2,1+2,1,1,1,1,1,1,1,1,1,1,5,5,1,1,1,1,1,1,1,4,1,2,3,1,1,1,1,1,q+2,1,1",
      "+2,vh+1c,1+f,6+2k,p3g+6,d+4,13c+t,18n+18,4d+14,50+b,1+g,1+6,1+1,gk,2+2,1+1b,1+8,1bg+1m,4",
      "1+p,2zq+10,qs2+10,w21+t,v+6,1+k,v+t,v+3,1,1+6,1+b,v+t,v+t,v+t,v+t,v+t,v+t,v+t,v+t,v+w,x+",
      "s,1+5,v+s,1+5,v+s,1+5,v+s,1+5,v+s,1+5,1,1xh+9,1+m,6+5,8f+1z,29w+12"]),
  ("Numeric",
    String.join [
      "1k+9,1jp+5,2x+9,1+1,3m,l+9,6d+9,6d+1,2l,47+9,3t+9,3t+9,3t+9,3t+9,3t+9,3t+9,3t+9,3t+9,3t+",
      "9,33+9,3t+9,28+9,8z+9,28+9,1y2+9,17+9,9p+9,44+b,5b+9,6+9,5w+9,2s+9,4b+9,6+9,15pr+9,pw+9,",
      "17+9,6d+9,q+9,2s+9,f3+9,q44+9,1gm+9,28d+9,6+9,tp+9,2h,h,13+9,1y+9,4n+9,8z+9,c1+9,3t+9,d2",
      "+9,39+9,6+m,2g+9,fm+9,39+9,pc+9,2s+9,7y+9,28+9,fm+9,kjp+9,2fk+9,2s+9,4b+9,k7+9,tfb+9,2wf",
      "+1l,2gd+9,fm+9,j6+9,7z+9,wj+9,4yh+9"]),
  ("OLetter",
    String.join [
      "g9,4+3,6q,15+6,6+c,v,1,49,hm,3t+v,4+4,1f+1c,14+1,1+35,1,h+1,7+1,b+2,2,j,1+y,y+2v,c,s+11,",
      "9+1,4,5+p,4,9,3,r+s,7+b,5+r,1+5,k+1b,1w+1q,3,l,7+9,h+h,4+7,2+1,2+p,1+6,1,3+3,3,j,f+1,1+2",
      ",g+1,b,8+5,4+1,2+p,1+6,1+1,1+1,1+1,10+3,1,m+2,j+8,1+2,1+p,1+6,1+1,1+4,3,l,h+1,r,c+7,2+1,",
      "2+p,1+6,1+1,1+4,3,z+1,1+2,h,k,1+5,3+2,1+3,3+1,1,1+1,3+1,3+2,3+c,q,1p+7,1+2,1+q,1+h,3,v+2",
      ",2,2+1,z,4+7,1+2,1+q,1+9,1+4,3,10+1,1+1,h+1,k+8,1+2,1+19,2,j,5+2,8+2,s+5,5+k,3+r,1+8,1,2",
      "+6,1w+1j,1+1,d+6,1w+1,1,1+4,1+r,1,1+9,1+1,9,2+4,1,p+3,11,21+7,1+14,w+4,3q+1c,n,j+5,4+3,3",
      ",3+1,7+2,4+d,d,23+1c,2+bp,1+3,2+6,1,1+3,2+19,1+3,2+11,1+3,2+6,1,1+3,2+g,1+1t,1+3,2+24,16",
      "+h,3n+mz,2+j,1+t,5+2d,3+b,7+k,f+l,g+k,g+d,1+2,h+1n,14,4,25+2v,7+4,2+12,1,5+27,b+z,1l+y,2",
      "+4,c+1d,4+t,1r+q,9+1p,2n,30+1h,k+7,1r+y,f+1,b+1d,v+14,1b+2,b+14,l+1c,2+2,1b+3,1+5,1+1,3,",
      "13x+3,29+2,2+3,337+1s,7,j+q,9+6,1+6,1+6,1+6,1+6,1+6,1+6,1+6,2l,h4+2,t+8,7+4,2+4,4+2r,6+2",
      ",1+2w,1+3,5+1c,1+30,k+10,1k+h,jj+6vm,22+r1q,25+1g,2+8n,3+h,b+1,24,j,11+2k,18+8,3c,6,3b,3",
      "+6,1+2,1+3,1+q,y+1n,g+1l,20+5,3,1+1,c+w,b+q,t+x,7+1h,x,j+4,1+9,b+4,1+19,r+2,1+7,n+q,3,3+",
      "1l,1,3+1,2+4,2,1,s+2,2+b,7+2,d+5,2+5,2+5,9+6,1+6,4p+13,y+cmc,d+q,4+1k,8sn+cs,2+3d,25,1+9",
      ",1+d,1+4,1,1+1,1+1,1+3g,12+cp,l+21,2+1q,19+c,3r+4,1+4b,3d+1s,2+z,3+5,2+5,2+5,2+2,14+c,1+",
      "t,1+l,1+1,1+g,2+f,13+3y,27+1p,8m+x,3+1k,1j+10,f+y,5+16,b+y,2+14,4+7,1+4,3y+2h,35+18,8+1n",
      ",2z+1n,d+b0,9+p,b+7,t+1,41+5,2,1+1d,1+1,3,2+q,b+q,9+z,23+l,1+1,b+p,b+t,28+1s,6+1,22,h+3,",
      "1+2,1+x,1c+x,3+x,14+7,1+w,w+1q,b+p,b+l,f+k,3k+2b,5x+14,17+5,10,8s+1b,6+1,j+2,1x+x,b,8+p,",
      "1c+k,1h+n,w+q,d+1p,1v+1,2,f+1f,11+s,v+14,y,2,8+13,3,d+1j,g+3,p,1,14+k,1+s,m+1,21+6,1,1+3",
      ",1+g,1+9,7+1h,17+7,2+1,2+p,1+6,1+1,1+4,3,l,d+4,z+9,1,2,1+16,1,t,1,1f+1p,l+3,n+2,z+1j,n+1",
      ",1,5y+1h,1b+3,15+1j,n,1x+1c,f,29+v,16+6,5z+1d,6t+7,2,2+7,1+1,1+r,h,1,31+7,2+17,j,1,x,b+1",
      "8,7,p,c+1g,m,l+2b,6f+11,10+8,1+15,k,1l+y,3m+6,1+1,1+16,p,t+5,1+1,1+10,g,bk+l,h,1+d,1+12,",
      "40,2k+yq,39+3k,k+69,2r1+33,h+13k,k+5,t+44v,5+ls,73p+y,1tv+lb,7+z,k+2j,k+y,l+1j,j+3,10+n,",
      "5+l,fy+1f,f0+2d,5,24+d,22+1,1,x+6cx,8+18x,1b+9,997+3,1+6,1+1,1+9c,h,y+2,2,g+3,8+dr,2dg+3",
      "f,5+d,3+8,7+9,95d,j5+1f,b+6,j,bc+y,l+1d,hm+w,7c+y,2,hz+6,1+3,1+1,1+g,1+6b,4b,17v+3,1+v,1",
      "+1,1,2,1+9,1+3,1,1,6,4,1,1,1+2,1+1,1,2,1,1,1,1,1+1,1,2+3,1+6,1+3,1+3,1,1+9,1+j,5+2,1+4,1",
      "+j,4ll+1fg1,11+49z,6+74,2+5zv,g+7s1,h+n1,2kk+kg,1kl+549,5+4c6"]),
  ("SContinue",
    "1f+1,d+1,vx,hf,5m+1,ht,48f,5,24d+1,47h,1rwm+1,1+1,x+1,y+1,2+1,2,b,5f+1,d+1,2b"),
  ("STerm",
    String.join [
      "12,y,1dn,4r+2,5t,1d+2,7y,1z,1,3+1,9g+1,1tx+1,th,4+1,sy,6d+1,52+1,1g,5,b4+1,cf+3,57+1,b+1",
      ",2+1,y+2,61+1,23+1,zv+1,9+2,3cr+2,9w,f,q+1,fv,1052,8q+1,7b,3,db+1,2s+1,32,4x+1,4r+2,4n+1",
      ",81,pwd,2+1,21+1,5g,y,23,2xg+1,1b6+4,1f+3,63+1,3s+3,43+2,45+1,6,j+1,2v+1,1+1,3h,9m+1,3s+",
      "1,d1+1,5+g,3d+1,81+2,jp,1,83+1,2t+1,fk+1,qb+1,2d+1,n0p+1,49,23+1,c,kv+1,9k,nsb,7yz"]),
  ("Sep",
    "49,8f7+1"),
  ("Sp",
    "9,1+1,m,43,5tm,2jf+b,15,1j,451"),
  ("Upper",
    String.join [
      "23+t,38+q,1+6,12,1,1,1,1,1,1,1,1,1,1,1,1,1,1,1,1,1,1,1,1,1,1,1,1,1,1,1,2,1,1,1,1,1,1,1,2",
      ",1,1,1,1,1,1,1,1,1,1,1,1,1,1,1,1,1,1,1,1,1,1,1+1,1,1,3+1,1,1+1,1+2,2+3,1+1,1+2,3+1,1+1,1",
      ",1,1+1,1,2,1+1,1+2,1,1+1,3,7+1,1+1,1+1,1,1,1,1,1,1,1,1,2,1,1,1,1,1,1,1,1,2+1,1,1+2,1,1,1",
      ",1,1,1,1,1,1,1,1,1,1,1,1,1,1,1,1,1,1,1,1,1,1,1,1,1,1,7+1,1+1,2,1+3,1,1,1,1,9b,1,3,8,6,1+",
      "2,1,1+1,1+j,1+8,14,2+2,3,1,1,1,1,1,1,1,1,1,1,1,5,2,1+1,2+1m,1k,1,1,1,1,1,1,1,1,1,1,1,1,1",
      ",1,1,1,9,1,1,1,1,1,1,1,1,1,1,1,1,1,1,1,1,1,1,1,1,1,1,1,1,1,1,1+1,1,1,1,1,1,1,2,1,1,1,1,1",
      ",1,1,1,1,1,1,1,1,1,1,1,1,1,1,1,1,1,1,1,1,1,1,1,1,1,1,1,1,1,1,1,1,1,1,1,1,1,1,1,1,1,1,2+1",
      "6,306+16,1,5,r9+2r,28t,d2,1,1,1,1,1,1,1,1,1,1,1,1,1,1,1,1,1,1,1,1,1,1,1,1,1,1,1,1,1,1,1,",
      "1,1,1,1,1,1,1,1,1,1,1,1,1,1,1,1,1,1,1,1,1,1,1,1,1,1,1,1,1,1,1,1,1,1,1,1,1,1,1,1,1,1,1,9,",
      "1,1,1,1,1,1,1,1,1,1,1,1,1,1,1,1,1,1,1,1,1,1,1,1,1,1,1,1,1,1,1,1,1,1,1,1,1,1,1,1,1,1,1,1,",
      "1,1,1,1,9+7,8+5,b+7,8+7,8+5,c,1,1,1,8+7,s+7,8+7,8+7,8+4,c+4,c+3,d+4,c+4,8f,4,3+2,2+2,2,3",
      "+4,6,1,1,1+3,2+3,b+1,5,v+h,m,vd+t,1xc+1j,1k,1+2,2,1,1,1+3,1,2,8+2,1,1,1,1,1,1,1,1,1,1,1,",
      "1,1,1,1,1,1,1,1,1,1,1,1,1,1,1,1,1,1,1,1,1,1,1,1,1,1,1,1,1,1,1,1,1,1,1,1,1,1,8,1,4,119q,1",
      ",1,1,1,1,1,1,1,1,1,1,1,1,1,1,1,1,1,1,1,1,1,m,1,1,1,1,1,1,1,1,1,1,1,1,1,4c,1,1,1,1,1,1,3,",
      "1,1,1,1,1,1,1,1,1,1,1,1,1,1,1,1,1,1,1,1,1,1,1,1,1,1,1,1,1,1,b,1,1+1,1,1,1,1,4,1,2,1,3,1,",
      "1,1,1,1,1,1,1,1,1+4,1+4,1,1,1,1,1,1,1,1+3,1,1+1,3,5,1,1,1,s,r6v+t,18d+18,4d+14,51+b,1+g,",
      "1+6,1+1,1v3+1m,52+p,2zq+10,qs2+10,w27+t,v+t,v+t,v,1+1,2,2+1,2+3,1+7,v+t,v+1,1+3,2+7,1+6,",
      "w+1,1+3,1+4,1,3+6,w+t,v+t,v+t,v+t,v+t,v+t,z+s,12+s,12+s,12+s,12+s,12,4l3+12,24j+t,6+t,6+",
      "t"])]

end Unicode

end Conformance
