import IdentityGateway.Unicode.Rows
import IdentityGateway.Text.CharRanges

/-!
# Data of joining and marks

The code points that join their neighbours, with numbers for the ways of joining, and the
marks.
-/

namespace IdentityGateway.Unicode

/-- The code points that join: gap, length and way. -/
def joiningRows : List String := [
  "173 0 1 595 111 1 276 6 1 264 44 1 2 0 1 2 1 1 2 1 1 2 0 1 1 0 1 72 10 1 2 0 1 4 0 4 2 3",
  "3 1 0 4 1 0 3 1 0 4 1 0 3 1 4 4 1 3 3 1 12 4 1 0 5 1 6 4 1 0 3 1 1 4 1 20 1 15 1 4 1 0 1",
  "1 2 3 2 2 3 1 15 4 1 17 3 1 37 4 1 0 3 1 1 4 1 8 3 1 0 4 1 0 3 1 0 4 1 0 3 1 1 4 1 1 3 2",
  "0 3 1 6 1 3 5 1 3 1 1 2 3 1 1 1 3 11 2 4 3 0 4 16 0 1 1 0 3 1 0 1 1 2 4 1 4 3 1 3 4 1 0",
  "3 1 8 4 1 0 3 1 0 4 1 0 3 1 0 4 1 0 3 1 1 4 1 0 3 1 26 1 3 0 3 1 10 4 1 2 3 1 14 4 1 1 3",
  "1 3 4 1 0 3 1 0 4 1 1 3 1 2 4 1 1 3 1 5 4 39 10 1 26 32 4 1 8 1 7 0 5 3 0 1 25 3 1 2 8 1",
  "2 2 1 2 4 1 19 0 3 1 4 4 1 1 3 1 0 4 1 0 3 1 9 4 1 0 3 1 0 4 1 2 3 1 2 1 5 0 4 2 3 4 2 0",
  "3 1 0 4 1 1 3 6 18 3 1 2 5 1 0 4 3 4 4 1 0 3 1 0 4 8 8 1 1 9 4 1 2 3 2 0 3 1 1 4 1 1 3 1",
  "5 4 1 0 3 1 14 4 2 23 1 2 31 1 56 0 1 2 0 1 5 7 1 5 0 1 4 6 1 11 1 1 30 0 1 59 0 1 5 3 1",
  "9 0 1 21 1 1 27 0 1 3 1 1 58 0 1 5 1 1 5 1 1 3 2 1 4 0 1 31 1 1 4 0 1 12 1 1 58 0 1 5 4",
  "1 2 1 1 5 0 1 21 1 1 23 5 1 2 0 1 59 0 1 3 0 1 2 3 1 9 0 1 6 1 1 1 1 1 12 1 1 31 0 1 62",
  "0 1 13 0 1 51 0 1 4 0 1 56 0 1 2 2 1 6 2 1 2 3 1 8 1 1 12 1 1 30 0 1 59 0 1 3 0 1 7 0 1",
  "6 1 1 21 1 1 29 1 1 58 1 1 5 3 1 9 0 1 21 1 1 30 0 1 73 0 1 8 2 1 2 0 1 91 0 1 3 6 1 13",
  "7 1 99 0 1 3 8 1 12 6 1 74 1 1 28 0 1 2 0 1 2 0 1 56 13 1 2 4 1 2 1 1 6 10 1 2 35 1 10 0",
  "1 103 3 1 2 5 1 2 1 1 3 1 1 26 1 1 5 2 1 17 3 1 14 0 1 3 1 1 7 0 1 16 0 1 704 2 1 947 2",
  "1 30 1 1 31 1 1 31 1 1 65 1 1 2 6 1 9 0 1 3 10 1 10 0 1 42 0 4 3 0 5 1 2 1 2 0 1 17 88 4",
  "13 1 1 1 33 4 1 0 1 1 0 4 118 2 1 5 1 1 10 0 1 7 2 1 220 1 1 3 0 1 59 0 1 2 6 1 2 0 1 2",
  "0 1 3 7 1 7 9 1 3 0 1 49 45 1 1 1 1 1 11 1 1 4 1 16 3 1 49 0 1 2 4 1 2 0 1 47 8 1 13 1 1",
  "33 3 1 3 1 1 2 2 1 57 0 1 2 1 1 4 0 1 2 2 1 59 7 1 3 1 1 153 2 1 2 12 1 2 6 1 5 0 1 7 0",
  "1 4 1 1 199 63 1 524 0 1 2 0 5 1 1 1 27 4 1 50 4 1 6 5 1 97 32 1 3071 2 1 142 0 1 97 31",
  "1 555 3 1 108 1 1 30165 3 1 2 9 1 33 1 1 81 1 1 273 0 1 4 0 1 5 0 1 26 1 1 6 0 1 20 49 4",
  "1 0 2 82 1 1 27 17 1 14 0 1 39 7 1 26 10 1 47 2 1 49 0 1 3 3 1 3 1 1 40 0 1 68 5 1 3 1 1",
  "3 1 1 13 0 1 9 0 1 48 0 1 52 0 1 2 2 1 3 1 1 6 1 1 2 0 1 43 1 1 9 0 1 239 0 1 3 0 1 5 0",
  "1 20273 0 1 738 15 1 17 15 1 208 0 1 250 2 1 514 0 1 227 0 1 150 4 1 1671 2 1 2 1 1 6 3",
  "1 41 2 1 5 0 1 129 4 4 1 0 3 2 0 3 2 1 3 3 0 2 1 4 3 1 3 4 1 0 2 1 4 4 1 0 3 1 2 4 1 0 3",
  "3 0 3 1 1 1 5 3 4 1 0 3 145 0 4 1 0 3 1 0 4 1 2 3 1 2 4 1 0 3 1 1 4 1 0 3 1 0 4 1 1 3 1",
  "0 4 1 0 3 24 3 3 1 1 4 338 0 2 1 32 4 1 0 3 1 0 4 1 3 1 66 4 1 318 1 1 22 0 3 1 1 4 2 1",
  "4 8 0 1 10 21 4 2 9 1 1 5 1 49 2 4 1 0 3 1 16 4 2 10 1 1 2 4 1 0 3 28 3 4 1 1 3 1 11 4 1",
  "3 1 43 0 4 2 1 4 1 2 3 2 0 4 1 1 3 1 1 4 1 0 3 1 1 4 2 0 4 1 1 3 1 0 4 5 0 3 1 0 4 1 0 2",
  "54 0 1 55 14 1 42 0 1 3 1 1 11 2 1 50 3 1 3 1 1 8 0 1 62 2 1 37 4 1 2 7 1 63 0 1 13 1 1",
  "53 8 1 11 3 1 3 0 1 96 2 1 3 0 1 2 1 1 7 0 1 3 0 1 158 0 1 4 7 1 22 1 1 58 1 1 4 0 1 38",
  "6 1 4 4 1 71 5 1 14 0 1 2 0 1 2 0 1 15 1 1 86 7 1 3 2 1 2 0 1 24 0 1 85 5 1 2 0 1 5 1 1",
  "2 1 1 239 3 1 7 1 1 2 1 1 28 1 1 86 7 1 3 0 1 2 1 1 107 0 1 2 0 1 3 5 1 2 0 1 102 0 1 2",
  "0 1 3 3 1 2 4 1 260 8 1 2 1 1 257 1 1 2 0 1 5 0 1 145 3 1 3 1 1 5 0 1 33 9 1 41 5 1 3 3",
  "1 9 0 1 10 5 1 3 2 1 47 12 1 2 1 1 199 0 1 2 2 1 2 0 1 202 6 1 2 5 1 2 0 1 83 21 1 3 6 1",
  "2 1 1 2 1 1 123 5 1 4 0 1 2 1 1 2 6 1 2 0 1 73 1 1 4 0 1 2 0 1 348 1 1 12 1 1 53 4 1 6 0",
  "1 2 0 1 24 0 1 5334 16 1 7 14 1 11465 11 1 4 2 1 2497 4 1 60 6 1 1049 0 1 64 3 1 82 0 1",
  "19641 1 1 2 3 1 4701 45 1 3 22 1 481 0 1 64 2 1 10 15 1 3 6 1 31 3 1 149 2 1 23 0 1 38 0",
  "1 1919 54 1 5 49 1 9 0 1 15 0 1 23 4 1 2 14 1 1361 6 1 2 16 1 3 6 1 2 1 1 2 4 1 101 0 1",
  "161 6 1 376 0 1 62 3 1 509 3 1 255 1 1 244 0 1 3 0 1 8 1 1 6 0 1 475 6 1 42 67 4 1 7 1",
  "792246 0 1 31 95 1 129 239 1"]

/-- The marks, as gaps and lengths. -/
def markRows : List String := [
  "768 111 276 6 264 44 2 0 2 1 2 1 2 1 72 10 49 20 17 0 102 6 3 5 3 1 2 3 36 0 31 26 92 10",
  "59 8 10 0 25 3 2 8 2 2 2 4 44 2 60 8 43 23 2 32 55 2 2 17 2 6 11 1 30 2 57 0 2 6 3 1 3 2",
  "10 0 11 1 27 0 3 2 57 0 2 4 5 1 3 2 4 0 31 1 4 0 12 2 57 0 2 7 2 2 2 2 21 1 23 5 2 2 57",
  "0 2 6 3 1 3 2 6 4 11 1 31 0 60 4 4 2 2 3 10 0 41 4 56 0 2 6 2 2 2 3 8 1 12 1 30 2 57 0 2",
  "6 2 2 2 3 8 1 12 1 16 0 13 3 56 1 2 6 2 2 2 3 10 0 11 1 30 2 71 0 5 5 2 0 2 7 19 1 62 0",
  "3 6 13 7 99 0 3 8 12 6 74 1 28 0 2 0 2 0 5 1 50 19 2 1 6 10 2 35 10 0 101 19 24 3 5 2 2",
  "2 3 6 4 3 14 11 2 0 11 3 704 2 947 3 29 2 30 1 31 1 65 31 10 0 46 2 2 0 118 1 35 0 119",
  "11 5 11 220 4 58 9 2 28 3 0 49 64 16 4 48 16 39 8 13 2 31 12 57 13 49 19 153 2 2 20 5 0",
  "7 0 3 2 199 63 721 32 3071 2 142 0 97 31 555 5 106 1 30165 3 2 9 33 1 81 1 273 0 4 0 5 0",
  "24 4 5 0 84 1 51 17 27 17 14 0 39 7 26 12 45 3 48 13 37 0 68 13 13 0 9 1 46 2 51 0 2 2 3",
  "1 6 1 2 0 42 4 6 1 237 7 2 1 20273 0 738 15 17 15 974 0 227 0 150 4 1671 2 2 1 6 3 41 2",
  "5 0 166 1 574 3 66 4 318 1 35 0 33 15 71 10 50 3 123 2 54 14 42 0 3 1 11 3 46 10 8 0 62",
  "2 37 13 17 1 45 0 13 2 49 13 9 3 2 1 93 11 7 0 3 0 158 11 22 3 56 1 2 6 3 1 3 2 10 0 11",
  "1 3 6 4 4 68 8 2 0 3 0 2 3 2 4 2 0 15 1 83 17 24 0 82 19 236 6 3 8 28 1 83 16 107 12 102",
  "14 257 14 246 5 2 1 3 3 2 0 2 1 142 6 3 6 4 0 29 9 41 6 2 3 9 0 10 10 47 15 199 7 200 7",
  "2 7 83 21 2 13 123 5 4 0 2 1 2 6 2 0 67 4 2 1 2 4 348 3 10 1 2 0 49 6 4 4 24 0 5350 0 7",
  "14 11465 17 2497 4 60 6 1049 0 2 54 8 3 82 0 12 1 19628 1 4706 45 3 22 481 0 62 4 4 5 9",
  "7 3 6 31 3 149 2 23 0 38 0 1919 54 5 49 9 0 15 0 23 4 2 14 1361 6 2 16 3 6 2 1 2 4 101 0",
  "161 6 376 0 62 3 509 3 255 1 244 0 3 0 8 1 6 0 475 6 110 6 792502 239"]

/-- The ranges of code points that join. -/
def joiningRanges : List Tagged := Tagged.ofRows joiningRows

/-- The ranges of marks. -/
def markRanges : List Text.CharRange := Text.CharRange.ofRows markRows

end IdentityGateway.Unicode
