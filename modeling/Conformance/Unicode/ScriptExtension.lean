/-!
# Script extensions

For each script of Unicode 16.0, by its long name, the code points used with it: those
of the script and those whose script extensions name it.

Each table is a text in the compact form that `Ranges.ofCompact` reads: the ranges in
ascending order, each written as the gap from the end of the previous range (from 0 for
the first) and, after `+`, its length less one, both in base 31 with the digits `0`–`9`
and the consonants `b`–`z`.
-/

namespace Conformance

namespace Unicode

/-- Each script with the code points used with it. -/
def scriptExtensionTables : List (String × String) := [
  ("Adlam",
    "1mk,11,6y5,3q4,3sy6+2f,4+9,4+1"),
  ("Ahom",
    "2db0+v,2+g,4+q"),
  ("Anatolian_Hieroglyphs",
    "2s9m+ls"),
  ("Arabic",
    String.join [
      "1lk+4,1+6x,1+12,2l+1j,7r+z,1+1,5+2d,1+x,66h,3q4,1rmc+3p,j+gb,2+1q,7,11+h,3m+4,1+4b,113+w",
      ",312+z,25+2,1s+3,1xdk+3,1+v,1+1,1,2,1+9,1+3,1,1,6,4,1,1,1+2,1+1,1,2,1,1,1,1,1+1,1,2+3,1+",
      "6,1+3,1+3,1,1+9,1+j,5+2,1+4,1+j,1p+1"]),
  ("Armenian",
    "t1,kt+16,2+1l,2+2,23dg+4"),
  ("Avestan",
    "5x,d3h+1,1wtf+1q,3+6"),
  ("Balinese",
    "75z+2g,1+1l"),
  ("Bamum",
    "1fd0+2t,1nf2+lb"),
  ("Bassa_Vah",
    "33n4+y,2+5"),
  ("Batak",
    "7d5+1n,8+3"),
  ("Bengali",
    String.join [
      "ql,1rb+1,k+1,v+3,1+7,2+1,2+p,1+6,1,3+3,2+8,2+1,2+3,8,4+1,1+4,2+s,50d,1,2+1,1,8,8,2,4,2+2",
      ",168x"]),
  ("Bhaiksuki",
    "2fn9+8,1+1f,1+f,b+x"),
  ("Bopomofo",
    "qy,1+2,f,j+1,d09+2,4+9,1+d,b+3,2,6,69,9+1c,3m+10,1rgy+1,93+4"),
  ("Brahmi",
    "2bg6+2h,4+14,9"),
  ("Braille",
    "bnb+87"),
  ("Buginese",
    "6xq+w,2+1,178k"),
  ("Buhid",
    "65n+1,9+m"),
  ("Canadian_Aboriginal",
    "5b5+nm,l2+27,26nb+h"),
  ("Carian",
    "5x,8f7,2,3p5,1tl8+1k"),
  ("Caucasian_Albanian",
    "sx,1f,1f,26p2+1n,c"),
  ("Chakma",
    "2mr+9,1p4+9,26cy+1p,1+k"),
  ("Cham",
    "1g8w+1r,9+f,2+9,2+3"),
  ("Cherokee",
    "ss+2,1,6+1,q+1,c+1,4cp+2r,2+5,19bn+2k"),
  ("Chorasmian",
    "2bcm+w"),
  ("Common",
    String.join [
      "0+22,v+5,v+1h,1+c,1+1,1+4,r,10,gh+2,1+9,1,3,1+8,1,1+5,5+4,2+m,42,6,1,nk,6y,jn,1f8,f2+3,4",
      "9d+c,2+11,1+z,1+9,1+1,1+6,1+b,3+b,1+g,k+11,21+16,1+2,2+5,1+v,1+j,1b+2,4+pg,q+b,p+yx,88+n",
      "7,2+10,1+3c,jj+q,1+r,2+9,1+3,1,1+t,fh,3,f,f,p,k2+r,10,1l+g,d+3,56+9,5+32,10,6vn+21,rq7+t",
      ",39+2,10h,g+1,q0g+9,q+n,2+c,1+l,1+3,4r,1+10,v+5,v+5,43+6,1+6,b+4,dz+d,1n+1f,1qt7+81,6+g1",
      ",51+3q,1y+7x,b+17,2+1z,3+j,8+1,7+y,4+1y,6w+m,d+m,d+2s,w+6,4c+2q,1+28,1+1,2,2+1,2+3,1+c,1",
      ",1+6,1+22,1+3,2+7,1+6,1+w,1+3,1+4,1,3+6,1+by,2+9d,2+1l,5ft+25,2g+1y,qs+1d,4+36,d+g,2+g,1",
      "+g,1+15,b+5l,1t+t,1+1,f+1d,4+8,r+5,4z+10q,4+j,3+d,3+3t,4+31,6+c,4,h+c,4+1s,8+9,6+18,8+y,",
      "2+c,4+1,20+by,d+f,2+d,3+9,5+1s,7+g,2+b,6+8,7+4q,1+38,vff1,z+32"]),
  ("Coptic",
    "5x,lv,3+1,1,3h+1,3h+f,bsz+3q,5+6,90,1tp5+w"),
  ("Cuneiform",
    "2gqb+yq,39+3k,1+4,c+69"),
  ("Cypriot",
    "26gb+2,4+1f,3+8,1sr+5,2,1+1d,1+1,3,2"),
  ("Cypro_Minoan",
    "26gb+1,ddg+35"),
  ("Cyrillic",
    "ql,25+2,1,1,1,2,5,7p+9s,66j+b,55,2g,43,47b+10,25,10yv+32,rb1+1,1y6b+1z,12"),
  ("Deseret",
    "2783+2k"),
  ("Devanagari",
    "ql,1nq+2n,2+1c,54h+17,1+1,11q,150w+9,5c+10,zcf+9"),
  ("Dives_Akuru",
    "2dvj+6,2,2+7,1+1,1+y,1+1,2+c,9+9"),
  ("Dogra",
    "2hk+c,1c8z+9,ys1+1x"),
  ("Duployan",
    "5x,m2+1,1,s+1,cgv,3dyr+3f,5+d,3+8,7+9,2+7"),
  ("Egyptian_Hieroglyphs",
    "2lzg+14s,b+44v"),
  ("Elbasan",
    "5x,m0,26qd+18"),
  ("Elymaic",
    "2bf5+q"),
  ("Ethiopic",
    String.join [
      "t7,3zd+2b,1+3,2+6,1,1+3,2+19,1+3,2+11,1+3,2+6,1,1+3,2+g,1+1t,1+3,2+24,2+10,3+t,6ww+q,9+6",
      ",1+6,1+6,1+6,1+6,1+6,1+6,1+6,12bc+5,2+5,2+5,9+6,1+6,2qc8+6,1+3,1+1,1+g"]),
  ("Garay",
    "1ly,g,3,282x+16,3+x,8+1"),
  ("Georgian",
    "5x,18s,2yk+16,1,5,2+1j,32h+1c,2+2,yr,3cf+16,1,5,8c"),
  ("Glagolitic",
    "5x,ly,1,db,2,89,31h,42x,335+32,hl,110c,2pjf+6,1+j,2+6,1+1,1+4"),
  ("Gothic",
    "5x,lz+1,2,19,2660+v"),
  ("Grantha",
    String.join [
      "2gy+1,k+1,nn+f,4h7,1+1,z+2,3+1,11q,22gy+3,1+7,2+1,2+p,1+6,1+1,1+4,1+9,2+1,2+2,2,6,5+6,2+",
      "6,3+4,391+1,1"]),
  ("Greek",
    String.join [
      "5x,lv+1,2,1,1,b,1h,2,1c+7,2+3,1,4,1,1+2,1,1+m,1+20,g+h,6pp+4,1m+4,4+4,2q+2,b8+p,2+5,2+16",
      ",2+5,2+7,1,1,1,1+z,2+1p,1+g,1+f,2+5,1+l,2+2,1+8,31,6g,15tm,qvz+2j,k,1shr+27"]),
  ("Gujarati",
    "2gy+1,k+1,94+2,1+8,1+2,1+p,1+6,1+1,1+4,2+9,1+2,1+2,2,h+3,2+c,7+6,1bw2+9"),
  ("Gunjala_Gondi",
    "5x,29m+1,2cj1+5,1+1,1+15,1+1,1+5,7+9"),
  ("Gurmukhi",
    "2gy+1,k+1,50+2,1+5,4+1,2+p,1+6,1+1,1+1,1+1,2,1+4,4+1,2+2,3,7+3,1,7+j,1c0h+9"),
  ("Gurung_Khema",
    "2hl,2yjh+1v"),
  ("Han",
    String.join [
      "5x,d62+t,1+2v,d+6w,v+h,1+2,1+d,1+d,1+d,2,6+8,61,4s+h,11+16,9,1k+18,1t+1k,h+c,1n,2v+s,b+4",
      ",33+z,1+6vm,22+pv4,1vt+7,ptx+cs,2+3d,x7+1,93+4,yyx+1,d+1,vh3+k,86x+1,3mz+1fg1,11+49z,6+7",
      "4,2+5zv,g+7s1,h+n1,2kk+kg,1kl+549,5+4c6"]),
  ("Hangul",
    String.join [
      "4jd+87,7zs+2,4+9,1+d,g+2,6,69,1q+30,3n+z,23+z,10nq+x,nr+cmc,d+q,4+1k,b65+1,93+4,1w+z,3+5",
      ",2+5,2+5,2+2"]),
  ("Hanifi_Rohingya",
    "1ly,g,3,11,4r,27v0+18,8+9"),
  ("Hanunoo",
    "64z+q"),
  ("Hatran",
    "28kc+l,1+1,5+4"),
  ("Hebrew",
    "t0+1,nx+1r,8+v,4+5,239j+t,1+4,1,1+1,1+1,1+9"),
  ("Hiragana",
    "dsf+2,4+9,1+d,j+5,1,4+1,3+2r,2+7,2x+1,1rp7+1,93+4,b,1g+1,1hzk+97,l,y+2,k73"),
  ("Imperial_Aramaic",
    "28d6+p,1+8"),
  ("Inherited",
    String.join [
      "t8,2,1+c,1+1,3+6,2,2+h,1+1,1+k,1+4,1+3,1l1+1,4mb+z,sc+1q,1,1+4,jx+1,68+10,1wwk+h,j+f,10g",
      ",1rlz+1g,2+q,kk+2,k+7,2+6,z+3,vsyk+7q"]),
  ("Inscriptional_Pahlavi",
    "2970+l,5+7"),
  ("Inscriptional_Parthian",
    "295z+p,2+7"),
  ("Javanese",
    "1g4r+2h,1+b,4+1"),
  ("Kaithi",
    "2hm+9,9sj,11hf+9,ws3+24,b"),
  ("Kannada",
    "2gy+1,k+1,tm+d,1+2,1+q,1+9,1+4,2+8,1+2,1+3,7+1,6+1,1+3,2+9,1+2,46z,1+1,6,r,1,162s+5"),
  ("Katakana",
    String.join [
      "sy,y,cyh+2,4+9,1+d,j+5,1,4+1,2y+3,3+32,7r+h,6q+1h,1+2t,1r1s+1,93+20,1hz0+3,1+6,1+1,1,98+",
      "2,1m,g+3"]),
  ("Kawi",
    "2gg2+j,1+19,3+x"),
  ("Kayah_Li",
    "1g0m+1j"),
  ("Kharoshthi",
    "28vn+3,1+1,5+7,1+2,1+x,2+2,4+9,7+8"),
  ("Khitan_Small_Script",
    "3502,76v+h4,1b"),
  ("Khmer",
    "682+30,2+9,6+9,hp+10"),
  ("Khojki",
    "2x0+9,1bwl+9,x5h+k,1+1h"),
  ("Khudawadi",
    "2hk+1,1c99+9,xc5+1w,5+9"),
  ("Kirat_Rai",
    "3498+1v"),
  ("Lao",
    "3vs+1,1,1+4,1+r,1,1+q,2+4,1,1+6,1+9,2+3"),
  ("Latin",
    String.join [
      "23+t,6+t,1j,d,2,5+q,1+z,1+gg,3,b,1+2,1,9,1,6+4,w+g,1+1,1,d,2+2,7+1,1+1,17,5,4+d,8y+1,18k",
      "+1,217,367+16,6+1k,5+3,5+d,1+27,1v,7+87,9s,23,f,j+d,2p,1v+1,6,w,k+19,2wj+10,f4,116g+7,v+",
      "38,3+24,2+1,1,1+7,p+f,9r,jk+1c,1+8,1+3,p67+6,12w+t,6+t,258+5,1+1b,1+8,1vbq+z,6+5"]),
  ("Lepcha",
    "7g7+1s,3+g,3+2"),
  ("Limbu",
    "2hl,44v+z,1+c,4+c,4,3+c"),
  ("Linear_A",
    "26gk+1f,18m+b0,9+p,b+7"),
  ("Linear_B",
    "2662+c,1+t,1+l,1+1,1+g,2+f,13+3y,5+2,4+1f,3+8"),
  ("Lisu",
    "ql,j,d1k+1,1038+1j,11p5"),
  ("Lycian",
    "8m5,1y7j+x"),
  ("Lydian",
    "5x,d3j,1w9y+t,5"),
  ("Mahajani",
    "5x,29m+c,1c8z+9,wzt+17"),
  ("Makasar",
    "2gf1+s"),
  ("Malayalam",
    "2gy+1,k+1,yr+d,1+2,1+1m,1+2,1+5,4+h,2+t,42s,r,162v+2"),
  ("Mandaic",
    "1nm,jh+w,2"),
  ("Manichaean",
    "1nm,27d6+17,4+c"),
  ("Marchen",
    "2frx+10,2+p,1+f"),
  ("Masaram_Gondi",
    "2hk+1,2cdy+6,1+1,1+1d,3,1+1,1+8,8+9"),
  ("Medefaidrin",
    "34kj+2x"),
  ("Meetei_Mayek",
    "1gj3+q,6h+1g,2+9"),
  ("Mende_Kikakui",
    "45zy+6b,2+h"),
  ("Meroitic_Cursive",
    "28rk+r,4+m,2+1g"),
  ("Meroitic_Hieroglyphs",
    "8m8,2037+10"),
  ("Miao",
    "34rq+2d,4+1t,7+j"),
  ("Modi",
    "1fsx+9,y7j+26,c+9"),
  ("Mongolian",
    "6d6+t,6+2v,7+1c,202,46m+1,5+3,1zc2+d"),
  ("Mro",
    "33hh+z,1+9,4+1"),
  ("Multani",
    "2rw+9,28bn+6,1,1+3,1+g,1+b"),
  ("Myanmar",
    "484+54,19mt,5q+z,34+10,xvg+m"),
  ("Nabataean",
    "28g8+z,8+8"),
  ("Nag_Mundari",
    "454m+1b"),
  ("Nandinagari",
    "2hk+1,xx+9,47x,8,7,162l+5,z6l+7,2+1g,2+b"),
  ("New_Tai_Lue",
    "6sl+1d,4+t,6+b,3+1"),
  ("Newa",
    "2cj7+2y,1+4"),
  ("Nko",
    "1ly,g,3,ff+1w,2+2,23b7+1"),
  ("Nushu",
    "34zz,kgc+dr"),
  ("Nyiakeng_Puachue_Hmong",
    "4444+1f,3+f,2+9,4+1"),
  ("Ogham",
    "5zt+x"),
  ("Ol_Chiki",
    "7jt+1j"),
  ("Ol_Onal",
    "2hk+1,42x8+1c,4"),
  ("Old_Hungarian",
    "8m5,2,3p5,h,1x69+1m,f+1m,7+5"),
  ("Old_Italic",
    "26zv+14,9+2"),
  ("Old_North_Arabian",
    "28zs+10"),
  ("Old_Permic",
    "5x,lv,5+2,b,cv,25w4+1c"),
  ("Old_Persian",
    "2750+14,4+f"),
  ("Old_Sogdian",
    "2b5y+18"),
  ("Old_South_Arabian",
    "28yr+10"),
  ("Old_Turkic",
    "8m5,3p7,1x2q+2b"),
  ("Old_Uyghur",
    "1nm,27ft,162+t"),
  ("Oriya",
    "2gy+1,k+1,f8+2,1+7,2+1,2+p,1+6,1+1,1+4,2+8,2+1,2+2,7+2,4+1,1+4,2+k,4mk,r"),
  ("Osage",
    "st,2,6,2g,26k4+14,4+14"),
  ("Osmanya",
    "27d7+y,2+9"),
  ("Pahawh_Hmong",
    "33pp+27,b+9,1+6,1+n,5+l"),
  ("Palmyrene",
    "28f7+10"),
  ("Pau_Cin_Hau",
    "2f9z+1t"),
  ("Phags_Pa",
    "6d8+1,1,25d,46n,110y+1s"),
  ("Phoenician",
    "28ld+w,3"),
  ("Psalter_Pahlavi",
    "1nm,27ld+k,7+3,d+6"),
  ("Rejang",
    "1g25+14,c"),
  ("Runic",
    "60v+2v"),
  ("Samaritan",
    "242+1g,2+g,b3c"),
  ("Saurashtra",
    "1fwh+27,8+c"),
  ("Sharada",
    "2gy,566,1,2+1,2,163f+5,2,x1d+32"),
  ("Shavian",
    "5x,274r+1j"),
  ("Siddham",
    "2cxm+1q,2+16"),
  ("SignWriting",
    "41qt+p0,h+4,1+g"),
  ("Sinhala",
    "2hk+1,12x+2,1+k,3+r,1+8,1,2+6,3,4+5,1,1+7,6+9,2+2,3zs,237n+m"),
  ("Sogdian",
    "1nm,28kv+1b"),
  ("Sora_Sompeng",
    "2bnx+s,7+9"),
  ("Soyombo",
    "2f6c+2n"),
  ("Sundanese",
    "7b3+21,88+7"),
  ("Sunuwar",
    "ss+1,1,9,2,x,3,2dqv+12,g+9"),
  ("Syloti_Nagri",
    "2hk+1,44+9,1c39+1f"),
  ("Syriac",
    "sw+1,2+1,1,p,2+2,7+1,1,rl,g+1,2,11,b+b,v,4m+f,1+1x,2+2,8s+b,5qz,1"),
  ("Tagalog",
    "63y+p,9,p+1"),
  ("Tagbanwa",
    "65n+1,1b+d,1+2,1+1"),
  ("Tai_Le",
    "ss+1,5+1,3,3j0+9,2dj+y,2+4"),
  ("Tai_Tham",
    "6yr+20,1+x,2+b,6+9,6+f"),
  ("Tai_Viet",
    "1gf0+24,s+4"),
  ("Takri",
    "2hk+1,1c99+9,ycn+1v,6+9"),
  ("Tamil",
    String.join [
      "2gy+1,k+1,kf+1,1+5,3+2,1+3,3+1,1,1+1,3+1,3+2,3+c,4+4,3+2,1+3,2,6,g+n,4hb,169x,x7s,1,1s+1",
      ",3bb+1l,f"]),
  ("Tangsa",
    "33k1+2j,1+9"),
  ("Tangut",
    "drw+h,hz,2qpk,10+6cx,8+sr,jj+8"),
  ("Telugu",
    "2gy+1,k+1,ph+d,1+2,1+q,1+h,2+8,1+2,1+3,7+1,1+2,2,2+3,2+9,7+8,4c1,r"),
  ("Thaana",
    "1ly,g+1,2,22+9,8z+1l,23lk,b"),
  ("Thai",
    "ql,v,1d,1g,2w8+1v,5+w"),
  ("Tibetan",
    "3zw+29,1+14,4+17,1+14,1+g,1+6,4+1,8kq+3"),
  ("Tifinagh",
    "sv,1,2,1,c72+1s,7+1,g"),
  ("Tirhuta",
    "2gy+1,k+1,56f,162v+9,xv4+29,8+9"),
  ("Todhri",
    "st,2,2,9,1,2d,26tq+1n"),
  ("Toto",
    "ql,43tf+z"),
  ("Tulu_Tigalari",
    "3fj+9,486,1,162s+5,61,xcy+9,1,2,1+16,1+9,1,2,1+3,1+9,1+1,8+1"),
  ("Ugaritic",
    "273z+y,1"),
  ("Vai",
    "1dyl+9n"),
  ("Vithkuqi",
    "27mz+b,1+g,1+6,1+1,1+b,1+g,1+6,1+1"),
  ("Wancho",
    "44ll+1v,5"),
  ("Warang_Citi",
    "2drf+2n,d"),
  ("Yezidi",
    "1ly,g,3,22+9,28bv+1b,1+2,2+1"),
  ("Yi",
    "dsf+1,5+9,2+7,76,yks+16k,3+1r,s46+4"),
  ("Zanabazar_Square",
    "2f3s+29")]

end Unicode

end Conformance
