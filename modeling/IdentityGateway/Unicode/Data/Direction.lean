import IdentityGateway.Unicode.Rows

/-!
# Data of writing direction

The code points that are not written from left to right, with numbers for their
bidirectional classes.
-/

namespace IdentityGateway.Unicode

/-- The code points that are not written from left to right: gap, length and class. -/
def directionRows : List String := [
  "0 8 9 1 4 11 1 13 9 1 4 11 1 1 8 1 2 7 1 4 8 1 0 5 1 0 6 1 0 5 1 1 6 1 9 4 1 0 6 1 5 8",
  "27 5 8 27 3 8 1 5 9 1 0 11 1 25 9 1 0 6 1 0 8 1 3 7 1 3 8 2 1 8 1 0 9 1 1 8 1 1 7 1 1 4",
  "1 0 8 2 2 8 1 0 4 2 4 8 24 0 8 32 0 8 450 1 8 8 13 8 3 13 8 6 8 8 2 16 8 1 111 10 5 1 8",
  "9 0 8 6 1 8 2 0 8 111 0 8 141 6 10 257 0 8 3 1 8 1 0 7 1 0 1 1 44 10 1 0 1 1 0 10 1 0 1",
  "1 1 10 1 0 1 1 1 10 1 0 1 1 1 10 1 54 1 1 5 3 1 1 8 1 0 2 1 1 7 1 0 2 1 0 6 1 0 2 1 1 8",
  "1 10 10 1 47 2 1 20 10 1 9 3 1 0 7 1 1 3 1 2 2 1 0 10 1 100 2 1 6 10 1 0 3 1 0 8 1 5 10",
  "1 1 2 1 1 10 1 0 8 1 3 10 1 1 2 1 9 4 1 22 2 1 0 10 1 29 2 1 26 10 1 90 2 1 10 10 1 14 2",
  "1 42 1 1 8 10 1 1 1 1 3 8 1 2 1 1 0 10 1 23 1 1 3 10 1 0 1 1 8 10 1 0 1 1 2 10 1 0 1 1 4",
  "10 1 42 1 1 2 10 1 3 1 1 47 2 1 1 3 1 4 2 1 8 10 1 41 2 1 23 10 1 0 3 1 31 10 56 0 10 2",
  "0 10 5 7 10 5 0 10 4 6 10 11 1 10 30 0 10 59 0 10 5 3 10 9 0 10 21 1 10 15 1 7 8 0 7 3 0",
  "10 3 1 10 58 0 10 5 1 10 5 1 10 3 2 10 4 0 10 31 1 10 4 0 10 12 1 10 58 0 10 5 4 10 2 1",
  "10 5 0 10 21 1 10 14 0 7 9 5 10 2 0 10 59 0 10 3 0 10 2 3 10 9 0 10 6 3 10 12 1 10 31 0",
  "10 62 0 10 13 0 10 38 5 8 1 0 7 1 0 8 6 0 10 4 0 10 56 0 10 2 2 10 6 2 10 2 3 10 8 1 10",
  "12 1 10 21 6 8 3 0 10 59 0 10 16 1 10 21 1 10 29 1 10 58 1 10 5 3 10 9 0 10 21 1 10 30 0",
  "10 73 0 10 8 2 10 2 0 10 91 0 10 3 6 10 5 0 7 8 7 10 99 0 10 3 8 10 12 6 10 74 1 10 28 0",
  "10 2 0 10 2 0 10 1 3 8 52 13 10 2 4 10 2 1 10 6 10 10 2 35 10 10 0 10 103 3 10 2 5 10 2",
  "1 10 3 1 10 26 1 10 5 2 10 17 3 10 14 0 10 3 1 10 7 0 10 16 0 10 704 2 10 49 9 8 103 0 8",
  "640 0 11 27 1 8 118 2 10 30 1 10 31 1 10 31 1 10 65 1 10 2 6 10 9 0 10 3 10 10 8 0 7 2 0",
  "10 19 9 8 7 10 8 1 2 10 1 0 9 1 0 10 118 1 10 35 0 10 119 2 10 5 1 10 10 0 10 7 2 10 5 0",
  "8 4 1 8 153 33 8 24 1 10 3 0 10 59 0 10 2 6 10 2 0 10 2 0 10 3 7 10 7 9 10 3 0 10 49 64",
  "10 16 3 10 49 0 10 2 4 10 2 0 10 47 8 10 13 1 10 33 3 10 3 1 10 2 2 10 57 0 10 2 1 10 4",
  "0 10 2 2 10 59 7 10 3 1 10 153 2 10 2 12 10 2 6 10 5 0 10 7 0 10 4 1 10 199 63 10 446 0",
  "8 2 2 8 12 2 8 14 2 8 14 2 8 14 1 8 2 10 11 1 2 9 2 0 1 1 23 8 1 6 11 1 0 6 1 4 7 1 14 8",
  "1 0 6 1 25 8 1 0 11 1 5 9 1 3 11 1 5 9 1 0 4 4 5 4 1 1 5 1 2 8 2 9 4 1 1 5 1 3 8 17 47 7",
  "1 32 10 16 1 8 2 3 8 2 1 8 11 0 8 2 2 8 6 5 8 2 0 8 2 0 8 2 0 8 5 0 7 12 1 8 5 4 8 6 3 8",
  "3 15 8 42 2 8 5 129 8 1 0 5 1 0 7 1 289 8 70 25 8 2 147 8 23 10 8 22 39 8 1 19 4 79 449",
  "8 2 338 8 257 627 8 3 137 8 230 5 8 5 2 10 8 6 8 128 0 10 97 31 10 1 93 8 3 3 8 29 25 8",
  "2 88 8 13 213 8 27 15 8 1 0 11 1 3 8 4 24 8 10 3 10 3 0 8 6 1 8 6 2 8 90 1 10 1 1 8 4 0",
  "8 91 0 8 197 37 8 10 0 8 46 1 8 50 15 8 29 2 8 51 14 8 13 3 8 168 3 8 100 1 8 32 0 8",
  "6593 63 8 22161 54 8 327 2 8 96 3 10 1 0 8 1 9 10 1 1 8 31 1 10 81 1 10 15 33 8 103 0 8",
  "122 0 10 4 0 10 5 0 10 26 1 10 2 3 8 1 0 10 12 1 7 59 3 8 77 1 10 27 17 10 14 0 10 39 7",
  "10 26 10 10 47 2 10 49 0 10 3 3 10 3 1 10 40 0 10 68 5 10 3 1 10 3 1 10 13 0 10 9 0 10",
  "48 0 10 52 0 10 2 2 10 3 1 10 6 1 10 2 0 10 43 1 10 9 0 10 116 1 8 122 0 10 3 0 10 5 0",
  "10 20272 0 1 1 0 10 1 9 1 1 0 5 1 37 1 1 114 2 1 15 8 1 362 2 1 17 8 1 63 2 1 1 8 1 53 2",
  "1 7 8 1 31 9 1 12 2 1 2 8 1 15 10 1 9 8 7 15 10 1 31 8 1 0 6 1 0 8 1 0 6 2 0 8 1 0 6 1 8",
  "8 1 0 7 1 1 8 1 1 5 1 2 8 2 0 8 1 1 7 1 0 8 5 142 2 1 0 9 2 1 8 1 2 7 1 4 8 1 0 5 1 0 6",
  "1 0 5 1 1 6 1 9 4 1 0 6 1 5 8 27 5 8 27 10 8 123 1 7 1 2 8 1 1 7 2 6 8 2 8 9 1 4 8 1 1 9",
  "258 0 8 63 76 8 4 12 8 4 0 8 93 0 10 227 0 10 1 26 4 123 4 10 1158 286 1 1 0 8 1 224 1 1",
  "2 10 1 0 1 1 1 10 1 4 1 1 3 10 1 39 1 1 2 10 1 3 1 1 0 10 1 164 1 1 1 10 1 81 1 1 6 8 1",
  "447 1 1 35 2 1 3 10 1 7 2 1 9 3 1 5 2 1 9 3 1 30 1 1 4 10 1 0 8 1 240 1 1 30 3 1 43 1 1",
  "1 10 1 18 1 1 14 2 1 0 10 1 8 8 1 22 2 1 15 10 1 47 1 1 21 2 1 10 10 1 30 2 1 17 1 1 3",
  "10 1 121 1 2 0 10 55 14 10 12 19 8 11 0 10 3 1 10 11 2 10 50 3 10 3 1 10 8 0 10 62 2 10",
  "37 4 10 2 7 10 63 0 10 13 1 10 53 8 10 11 3 10 3 0 10 96 2 10 3 0 10 2 1 10 7 0 10 3 0",
  "10 158 0 10 4 7 10 22 1 10 58 1 10 4 0 10 38 6 10 4 4 10 71 5 10 14 0 10 2 0 10 2 0 10",
  "15 1 10 86 7 10 3 2 10 2 0 10 24 0 10 85 5 10 2 0 10 5 1 10 2 1 10 239 3 10 7 1 10 2 1",
  "10 28 1 10 86 7 10 3 0 10 2 1 10 32 12 8 63 0 10 2 0 10 3 5 10 2 0 10 102 2 10 3 3 10 2",
  "4 10 260 8 10 2 1 10 257 1 10 2 0 10 5 0 10 145 3 10 3 1 10 5 0 10 33 5 10 3 1 10 41 5",
  "10 3 3 10 9 0 10 10 5 10 3 2 10 47 12 10 2 1 10 199 0 10 2 2 10 2 0 10 202 6 10 2 5 10",
  "85 21 10 3 6 10 2 1 10 2 1 10 123 5 10 4 0 10 2 1 10 2 6 10 2 0 10 73 1 10 4 0 10 2 0 10",
  "348 1 10 12 1 10 53 4 10 6 0 10 2 0 10 24 0 10 123 7 8 1 3 7 1 16 8 5199 0 10 7 14 10",
  "11465 11 10 4 2 10 2497 4 10 60 6 10 1049 0 10 64 3 10 80 0 8 2 0 10 19641 1 10 2 3 9",
  "3933 239 8 11 2 8 4 435 8 7 69 8 1 45 10 3 22 10 481 0 10 64 2 10 10 7 9 1 7 10 3 6 10",
  "31 3 10 60 88 8 1 2 10 1 0 8 11 10 8 1 0 10 1 36 8 1 0 10 127 86 8 901 0 8 58 0 8 58 0 8",
  "58 0 8 58 0 8 11 49 4 513 54 10 5 49 10 9 0 10 15 0 10 23 4 10 2 14 10 81 28 8 1252 6 10",
  "2 16 10 3 6 10 2 1 10 2 4 10 101 0 10 161 6 10 376 0 10 62 3 10 16 0 7 493 3 10 255 1 10",
  "244 0 10 3 0 10 8 1 10 6 0 10 267 207 1 1 6 10 1 108 1 1 6 10 1 804 1 1 79 2 1 63 1 1 79",
  "2 1 175 1 1 239 2 1 1 8 1 13 2 1 255 1 1 43 8 5 99 8 13 14 8 3 14 8 2 14 8 2 36 8 11 10",
  "4 1 4 8 32 0 8 59 5 8 62 0 8 179 5 8 155 985 8 3 16 8 4 12 8 4 217 8 7 11 8 5 0 8 13 14",
  "8 5 55 8 9 9 8 7 39 8 9 29 8 3 11 8 5 1 8 15 8 8 40 343 8 9 13 8 3 12 8 4 70 8 2 0 8 4",
  "17 8 2 12 8 4 11 8 6 146 8 2 91 8 1 9 4 1 0 8 1028 1 9 65535 1 9 65535 1 9 65535 1 9",
  "65535 1 9 65535 1 9 65535 1 9 65535 1 9 65535 1 9 65535 1 9 65535 1 9 65535 1 9 65535",
  "257 9 1 239 10 1 3599 9 61439 1 9 65535 1 9 65535 1 9"]

/-- The ranges of code points that are not written from left to right. -/
def directionRanges : List Tagged := Tagged.ofRows directionRows

end IdentityGateway.Unicode
