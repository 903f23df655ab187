/-!
# Scripts

The code points of each script of Unicode 16.0, by its long name.  `Unknown`, the value
of the code points of no script, has no table.

Each table is a text in the compact form that `Ranges.ofCompact` reads: the ranges in
ascending order, each written as the gap from the end of the previous range (from 0 for
the first) and, after `+`, its length less one, both in base 31 with the digits `0`–`9`
and the consonants `b`–`z`.
-/

namespace Conformance

namespace Unicode

/-- Each script with its code points. -/
def scriptTables : List (String × String) := [
  ("Adlam",
    "4686+2f,4+9,4+1"),
  ("Ahom",
    "2db0+v,2+g,4+q"),
  ("Anatolian_Hieroglyphs",
    "2s9m+ls"),
  ("Arabic",
    String.join [
      "1lk+4,1+5,1+f,1+2,1+10,1+9,c+t,1+3g,1+12,2l+1j,7r+z,1+1,5+2d,1+x,22k1+3p,j+cp,2+2k,2+1q,",
      "7,11+h,3m+4,1+4b,432+z,25+2,1s+3,1xdk+3,1+v,1+1,1,2,1+9,1+3,1,1,6,4,1,1,1+2,1+1,1,2,1,1,",
      "1,1,1+1,1,2+3,1+6,1+3,1+3,1,1+9,1+j,5+2,1+4,1+j,1p+1"]),
  ("Armenian",
    "1cw+16,2+1l,2+2,23dg+4"),
  ("Avestan",
    "293x+1q,3+6"),
  ("Balinese",
    "75z+2g,1+1l"),
  ("Bamum",
    "1fd0+2t,1nf2+lb"),
  ("Bassa_Vah",
    "33n4+y,2+5"),
  ("Batak",
    "7d5+1n,8+3"),
  ("Bengali",
    "2jg+3,1+7,2+1,2+p,1+6,1,3+3,2+8,2+1,2+3,8,4+1,1+4,2+s"),
  ("Bhaiksuki",
    "2fn9+8,1+1f,1+f,b+x"),
  ("Bopomofo",
    "s2+1,d8p+1c,3m+10"),
  ("Brahmi",
    "2bg6+2h,4+14,9"),
  ("Braille",
    "bnb+87"),
  ("Buginese",
    "6xq+w,2+1"),
  ("Buhid",
    "660+m"),
  ("Canadian_Aboriginal",
    "5b5+nm,l2+27,26nb+h"),
  ("Carian",
    "26wr+1k"),
  ("Caucasian_Albanian",
    "27kx+1n,c"),
  ("Chakma",
    "2bqg+1p,1+k"),
  ("Cham",
    "1g8w+1r,9+f,2+9,2+3"),
  ("Cherokee",
    "572+2r,2+5,19bn+2k"),
  ("Chorasmian",
    "2bcm+w"),
  ("Common",
    String.join [
      "0+22,v+5,v+1h,1+g,1+4,r,10,gh+17,5+4,2+m,3r,9,6,1,nk,6,g,3,11,51,jn,45+1,191,f2+3,9c,1l0",
      "+2,29+1,6k+1,1,18n,f,7+3,1+5,1+2,2,sy+c,2+2s,1+b,3+b,1+g,k+11,21+16,1+2,2+5,1+v,1+j,1b+2",
      ",4+pg,q+b,p+yx,88+n7,2+10,1+3c,jj+30,dz+n,1,1+s,h+7,4+3,2y+1,3,2x+1,4r+h,11+16,9,1k+21,1",
      "0+2l,1j,2v+5d,6vn+21,rpz+12,39+2,5b+9,7w,55,dr,g+1,psp+1,6q+9,q+13,1+l,1+3,4r,1+10,v+5,v",
      "+b,b,1g+1,22+6,1+6,b+4,8b+2,4+1f,3+8,2l+d,1n+1f,7c+v,1lg1+3,42v+81,6+g1,51+3q,1y+7x,b+17",
      ",2+1z,3+j,8+1,7+y,4+1y,6w+m,d+m,d+2s,9+s,4c+2q,1+28,1+1,2,2+1,2+3,1+c,1,1+6,1+22,1+3,2+7",
      ",1+6,1+w,1+3,1+4,1,3+6,1+by,2+9d,2+1l,5ft+25,2g+1y,qs+1d,4+36,d+g,2+g,1+g,1+15,b+5l,1t+t",
      ",1+1,f+1d,4+8,7+1,g+5,4z+10q,4+j,3+d,3+3t,4+31,6+c,4,h+c,4+1s,8+9,6+18,8+y,2+c,4+1,20+by",
      ",d+f,2+d,3+9,5+1s,7+g,2+b,6+8,7+4q,1+38,vff1,z+32"]),
  ("Coptic",
    "112+f,bsz+3q,5+6"),
  ("Cuneiform",
    "2gqb+yq,39+3k,1+4,c+69"),
  ("Cypriot",
    "28b4+5,2,1+1d,1+1,3,2"),
  ("Cypro_Minoan",
    "2lvv+35"),
  ("Cyrillic",
    "121+48,2+5f,66j+b,55,2g,4cg+10,1111+32,rb1+1,1y6b+1z,12"),
  ("Deseret",
    "2783+2k"),
  ("Devanagari",
    "2db+2l,4+g,2+t,1cg4+10,zcf+9"),
  ("Dives_Akuru",
    "2dvj+6,2,2+7,1+1,1+y,1+1,2+c,9+9"),
  ("Dogra",
    "2dl8+1x"),
  ("Duployan",
    "3t8l+3f,5+d,3+8,7+9,2+3"),
  ("Egyptian_Hieroglyphs",
    "2lzg+14s,b+44v"),
  ("Elbasan",
    "27jc+18"),
  ("Elymaic",
    "2bf5+q"),
  ("Ethiopic",
    String.join [
      "4sn+2b,1+3,2+6,1,1+3,2+19,1+3,2+11,1+3,2+6,1,1+3,2+g,1+1t,1+3,2+24,2+10,3+t,6ww+q,9+6,1+",
      "6,1+6,1+6,1+6,1+6,1+6,1+6,12bc+5,2+5,2+5,9+6,1+6,2qc8+6,1+3,1+1,1+g"]),
  ("Garay",
    "29qh+16,3+x,8+1"),
  ("Georgian",
    "4f9+16,1,5,2+1c,1+3,32h+1c,2+2,4b6+16,1,5"),
  ("Glagolitic",
    "cqc+32,3r1f+6,1+j,2+6,1+1,1+4"),
  ("Gothic",
    "271d+v"),
  ("Grantha",
    "2c7z+3,1+7,2+1,2+p,1+6,1+1,1+4,2+8,2+1,2+2,2,6,5+6,2+6,3+4"),
  ("Greek",
    String.join [
      "xd+3,1+2,2+3,1,4,1,1+2,1,1+m,1+20,g+h,6pp+4,1m+4,4+4,2q,bb+p,2+5,2+16,2+5,2+7,1,1,1,1+z,",
      "2+1p,1+g,1+f,2+5,1+l,2+2,1+8,9j,15tm,qvz+2j,k,1shr+27"]),
  ("Gujarati",
    "2sr+2,1+8,1+2,1+p,1+6,1+1,1+4,2+9,1+2,1+2,2,h+3,2+c,7+6"),
  ("Gunjala_Gondi",
    "2g0n+5,1+1,1+15,1+1,1+5,7+9"),
  ("Gurmukhi",
    "2nm+2,1+5,4+1,2+p,1+6,1+1,1+1,1+1,2,1+4,4+1,2+2,3,7+3,1,7+j"),
  ("Gurung_Khema",
    "3113+1v"),
  ("Han",
    String.join [
      "dd0+t,1+2v,d+6w,1j,1,t+8,g+3,103+6vm,22+pv4,rpz+cs,2+3d,105g+1,d+1,17cm+1fg1,11+49z,6+74",
      ",2+5zv,g+7s1,h+n1,2kk+kg,1kl+549,5+4c6"]),
  ("Hangul",
    "4jd+87,817+1,89+30,3n+z,23+z,10nq+x,nr+cmc,d+q,4+1k,bkc+z,3+5,2+5,2+5,2+2"),
  ("Hanifi_Rohingya",
    "29nf+18,8+9"),
  ("Hanunoo",
    "64z+n"),
  ("Hatran",
    "28kc+l,1+1,5+4"),
  ("Hebrew",
    "1gz+1r,8+v,4+5,239j+t,1+4,1,1+1,1+1,1+9"),
  ("Hiragana",
    "dvh+2r,6+2,393z+97,l,y+2,k73"),
  ("Imperial_Aramaic",
    "28d6+p,1+8"),
  ("Inherited",
    String.join [
      "ss+3l,8y+1,gl+b,v,rr+3,4mb+z,jk+2,1+d,1+6,4,6,3+1,6d+21,jx+1,68+11,41q+3,3g+1,1rq5+h,j+f",
      ",10g,79,4c1,1m0l+1g,2+q,kk+2,k+7,2+6,z+3,vsyk+7q"]),
  ("Inscriptional_Pahlavi",
    "2970+l,5+7"),
  ("Inscriptional_Parthian",
    "295z+p,2+7"),
  ("Javanese",
    "1g4r+2h,2+9,4+1"),
  ("Kaithi",
    "2blb+24,b"),
  ("Kannada",
    "3b7+d,1+2,1+q,1+9,1+4,2+8,1+2,1+3,7+1,6+1,1+3,2+9,1+2"),
  ("Katakana",
    "dyl+2w,2+2,7r+h,6q+1h,1+2t,1rc3+9,1+1f,1hz2+3,1+6,1+1,1,98+2,1m,g+3"),
  ("Kawi",
    "2gg2+j,1+19,3+x"),
  ("Kayah_Li",
    "1g0m+1g,1"),
  ("Kharoshthi",
    "28vn+3,1+1,5+7,1+2,1+x,2+2,4+9,7+8"),
  ("Khitan_Small_Script",
    "3502,76v+h4,1b"),
  ("Khmer",
    "682+30,2+9,6+9,hp+10"),
  ("Khojki",
    "2bzq+k,1+1h"),
  ("Khudawadi",
    "2c5d+1w,5+9"),
  ("Kirat_Rai",
    "3498+1v"),
  ("Lao",
    "3vs+1,1,1+4,1+r,1,1+q,2+4,1,1+6,1+9,2+3"),
  ("Latin",
    String.join [
      "23+t,6+t,1j,h,5+q,1+z,1+gg,18+4,6yl+16,6+1k,5+3,5+d,1+27,23+87,cx,f,j+d,4k+1,6,w,k+19,2w",
      "j+10,11nq+38,3+24,2+1,1,1+7,p+f,vb+1c,1+8,1+3,p67+6,12w+t,6+t,258+5,1+1b,1+8,1vbq+z,6+5"]),
  ("Lepcha",
    "7g7+1s,3+g,3+2"),
  ("Limbu",
    "6ng+z,1+c,4+c,4,3+c"),
  ("Linear_A",
    "27sm+b0,9+p,b+7"),
  ("Linear_B",
    "2662+c,1+t,1+l,1+1,1+g,2+f,13+3y"),
  ("Lisu",
    "1dx1+1j,11p5"),
  ("Lycian",
    "26vq+x"),
  ("Lydian",
    "28mf+t,5"),
  ("Mahajani",
    "2bt1+17"),
  ("Makasar",
    "2gf1+s"),
  ("Malayalam",
    "3gc+d,1+2,1+1m,1+2,1+5,4+h,2+t"),
  ("Mandaic",
    "264+w,2"),
  ("Manichaean",
    "291v+17,4+c"),
  ("Marchen",
    "2frx+10,2+p,1+f"),
  ("Masaram_Gondi",
    "2fxk+6,1+1,1+1d,3,1+1,1+8,8+9"),
  ("Medefaidrin",
    "34kj+2x"),
  ("Meetei_Mayek",
    "1gj3+q,6h+1g,2+9"),
  ("Mende_Kikakui",
    "45zy+6b,2+h"),
  ("Meroitic_Cursive",
    "28rk+r,4+m,2+1g"),
  ("Meroitic_Hieroglyphs",
    "28qj+10"),
  ("Miao",
    "34rq+2d,4+1t,7+j"),
  ("Modi",
    "2d1r+26,c+9"),
  ("Mongolian",
    "6d6+1,2,1+m,6+2v,7+1c,25l4+d"),
  ("Mro",
    "33hh+z,1+9,4+1"),
  ("Multani",
    "2c3v+6,1,1+3,1+g,1+b"),
  ("Myanmar",
    "484+54,19tk+z,34+10,xvg+m"),
  ("Nabataean",
    "28g8+z,8+8"),
  ("Nag_Mundari",
    "454m+1b"),
  ("Nandinagari",
    "2f0p+7,2+1g,2+b"),
  ("New_Tai_Lue",
    "6sl+1d,4+t,6+b,3+1"),
  ("Newa",
    "2cj7+2y,1+4"),
  ("Nko",
    "220+1w,2+2"),
  ("Nushu",
    "34zz,kgc+dr"),
  ("Nyiakeng_Puachue_Hmong",
    "4444+1f,3+f,2+9,4+1"),
  ("Ogham",
    "5zt+x"),
  ("Ol_Chiki",
    "7jt+1j"),
  ("Ol_Onal",
    "45dw+1c,4"),
  ("Old_Hungarian",
    "29j9+1m,f+1m,7+5"),
  ("Old_Italic",
    "26zv+14,9+2"),
  ("Old_North_Arabian",
    "28zs+10"),
  ("Old_Permic",
    "272f+1c"),
  ("Old_Persian",
    "2750+14,4+f"),
  ("Old_Sogdian",
    "2b5y+18"),
  ("Old_South_Arabian",
    "28yr+10"),
  ("Old_Turkic",
    "29d5+2b"),
  ("Old_Uyghur",
    "2b9k+t"),
  ("Oriya",
    "2xw+2,1+7,2+1,2+p,1+6,1+1,1+4,2+8,2+1,2+2,7+2,4+1,1+4,2+k"),
  ("Osage",
    "27fs+14,4+14"),
  ("Osmanya",
    "27d7+y,2+9"),
  ("Pahawh_Hmong",
    "33pp+27,b+9,1+6,1+n,5+l"),
  ("Palmyrene",
    "28f7+10"),
  ("Pau_Cin_Hau",
    "2f9z+1t"),
  ("Phags_Pa",
    "1ftf+1s"),
  ("Phoenician",
    "28ld+w,3"),
  ("Psalter_Pahlavi",
    "2981+k,7+3,d+6"),
  ("Rejang",
    "1g25+14,c"),
  ("Runic",
    "60v+2d,3+b"),
  ("Samaritan",
    "242+1g,2+g"),
  ("Saurashtra",
    "1fwh+27,8+c"),
  ("Sharada",
    "2bvl+32"),
  ("Shavian",
    "27bp+1j"),
  ("Siddham",
    "2cxm+1q,2+16"),
  ("SignWriting",
    "41qt+p0,h+4,1+g"),
  ("Sinhala",
    "3lj+2,1+k,3+r,1+8,1,2+6,3,4+5,1,1+7,6+9,2+2,277g+m"),
  ("Sogdian",
    "2b7h+1b"),
  ("Sora_Sompeng",
    "2bnx+s,7+9"),
  ("Soyombo",
    "2f6c+2n"),
  ("Sundanese",
    "7b3+21,88+7"),
  ("Sunuwar",
    "2fl7+12,g+9"),
  ("Syloti_Nagri",
    "1frc+1f"),
  ("Syriac",
    "1vt+f,1+1x,2+2,8s+b"),
  ("Tagalog",
    "63y+p,9"),
  ("Tagbanwa",
    "671+d,1+2,1+1"),
  ("Tai_Le",
    "6r1+y,2+4"),
  ("Tai_Tham",
    "6yr+20,1+x,2+b,6+9,6+f"),
  ("Tai_Viet",
    "1gf0+24,s+4"),
  ("Takri",
    "2d5w+1v,6+9"),
  ("Tamil",
    "321+1,1+5,3+2,1+3,3+1,1,1+1,3+1,3+2,3+c,4+4,3+2,1+3,2,6,g+n,2cgb+1l,f"),
  ("Tangsa",
    "33k1+2j,1+9"),
  ("Tangut",
    "34zy,10+6cx,8+sr,jj+8"),
  ("Telugu",
    "363+d,1+2,1+q,1+h,2+8,1+2,1+3,7+1,1+2,2,2+3,2+9,7+8"),
  ("Thaana",
    "1zy+1l"),
  ("Thai",
    "3qn+1v,5+w"),
  ("Tibetan",
    "3zw+29,1+14,4+17,1+14,1+g,1+6,4+1"),
  ("Tifinagh",
    "d15+1s,7+1,g"),
  ("Tirhuta",
    "2cnc+29,8+9"),
  ("Todhri",
    "27qk+1n"),
  ("Toto",
    "44k1+z"),
  ("Tulu_Tigalari",
    "2cd3+9,1,2,1+16,1+9,1,2,1+3,1+9,1+1,8+1"),
  ("Ugaritic",
    "273z+y,1"),
  ("Vai",
    "1dyl+9n"),
  ("Vithkuqi",
    "27mz+b,1+g,1+6,1+1,1+b,1+g,1+6,1+1"),
  ("Wancho",
    "44ll+1v,5"),
  ("Warang_Citi",
    "2drf+2n,d"),
  ("Yezidi",
    "2b1t+1b,1+2,2+1"),
  ("Yi",
    "1cm9+16k,3+1r"),
  ("Zanabazar_Square",
    "2f3s+29")]

end Unicode

end Conformance
