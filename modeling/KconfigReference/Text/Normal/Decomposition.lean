import KconfigReference.Text.Basic

/-!
Decompositions of Unicode 14: the characters that have the same meaning as one character, whatever
their form. They are decomposed to the end, so none of them has a decomposition of its own.
-/

namespace KconfigReference.Text

/-- The decompositions in blocks of 256 code points, each with the number of its block. In a block a
character or a run of them, by their last two digits, stands before the code points it becomes; the
characters of a run become characters that follow each other. -/
def decompositionBlocks : List (Nat × List String) :=
  [(0x0, ["a0>20 a8>20.308 aa>61 af>20.304 b2-b3>32 b4>20.301 b5>3bc b8>20.327 b9>31 ba>6f",
    "bc>31.2044.34 bd>31.2044.32 be>33.2044.34 c0>41.300 c1>41.301 c2>41.302 c3>41.303",
    "c4>41.308 c5>41.30a c7>43.327 c8>45.300 c9>45.301 ca>45.302 cb>45.308 cc>49.300 cd>49.301",
    "ce>49.302 cf>49.308 d1>4e.303 d2>4f.300 d3>4f.301 d4>4f.302 d5>4f.303 d6>4f.308 d9>55.300",
    "da>55.301 db>55.302 dc>55.308 dd>59.301 e0>61.300 e1>61.301 e2>61.302 e3>61.303 e4>61.308",
    "e5>61.30a e7>63.327 e8>65.300 e9>65.301 ea>65.302 eb>65.308 ec>69.300 ed>69.301 ee>69.302",
    "ef>69.308 f1>6e.303 f2>6f.300 f3>6f.301 f4>6f.302 f5>6f.303 f6>6f.308 f9>75.300 fa>75.301",
    "fb>75.302 fc>75.308 fd>79.301 ff>79.308"]),
  (0x1, ["00>41.304 01>61.304 02>41.306 03>61.306 04>41.328 05>61.328 06>43.301 07>63.301",
    "08>43.302 09>63.302 0a>43.307 0b>63.307 0c>43.30c 0d>63.30c 0e>44.30c 0f>64.30c 12>45.304",
    "13>65.304 14>45.306 15>65.306 16>45.307 17>65.307 18>45.328 19>65.328 1a>45.30c 1b>65.30c",
    "1c>47.302 1d>67.302 1e>47.306 1f>67.306 20>47.307 21>67.307 22>47.327 23>67.327 24>48.302",
    "25>68.302 28>49.303 29>69.303 2a>49.304 2b>69.304 2c>49.306 2d>69.306 2e>49.328 2f>69.328",
    "30>49.307 32>49.4a 33>69.6a 34>4a.302 35>6a.302 36>4b.327 37>6b.327 39>4c.301 3a>6c.301",
    "3b>4c.327 3c>6c.327 3d>4c.30c 3e>6c.30c 3f>4c.b7 40>6c.b7 43>4e.301 44>6e.301 45>4e.327",
    "46>6e.327 47>4e.30c 48>6e.30c 49>2bc.6e 4c>4f.304 4d>6f.304 4e>4f.306 4f>6f.306 50>4f.30b",
    "51>6f.30b 54>52.301 55>72.301 56>52.327 57>72.327 58>52.30c 59>72.30c 5a>53.301 5b>73.301",
    "5c>53.302 5d>73.302 5e>53.327 5f>73.327 60>53.30c 61>73.30c 62>54.327 63>74.327 64>54.30c",
    "65>74.30c 68>55.303 69>75.303 6a>55.304 6b>75.304 6c>55.306 6d>75.306 6e>55.30a 6f>75.30a",
    "70>55.30b 71>75.30b 72>55.328 73>75.328 74>57.302 75>77.302 76>59.302 77>79.302 78>59.308",
    "79>5a.301 7a>7a.301 7b>5a.307 7c>7a.307 7d>5a.30c 7e>7a.30c 7f>73 a0>4f.31b a1>6f.31b",
    "af>55.31b b0>75.31b c4>44.5a.30c c5>44.7a.30c c6>64.7a.30c c7>4c.4a c8>4c.6a c9>6c.6a",
    "ca>4e.4a cb>4e.6a cc>6e.6a cd>41.30c ce>61.30c cf>49.30c d0>69.30c d1>4f.30c d2>6f.30c",
    "d3>55.30c d4>75.30c d5>55.308.304 d6>75.308.304 d7>55.308.301 d8>75.308.301 d9>55.308.30c",
    "da>75.308.30c db>55.308.300 dc>75.308.300 de>41.308.304 df>61.308.304 e0>41.307.304",
    "e1>61.307.304 e2>c6.304 e3>e6.304 e6>47.30c e7>67.30c e8>4b.30c e9>6b.30c ea>4f.328",
    "eb>6f.328 ec>4f.328.304 ed>6f.328.304 ee>1b7.30c ef>292.30c f0>6a.30c f1>44.5a f2>44.7a",
    "f3>64.7a f4>47.301 f5>67.301 f8>4e.300 f9>6e.300 fa>41.30a.301 fb>61.30a.301 fc>c6.301",
    "fd>e6.301 fe>d8.301 ff>f8.301"]),
  (0x2, ["00>41.30f 01>61.30f 02>41.311 03>61.311 04>45.30f 05>65.30f 06>45.311 07>65.311",
    "08>49.30f 09>69.30f 0a>49.311 0b>69.311 0c>4f.30f 0d>6f.30f 0e>4f.311 0f>6f.311 10>52.30f",
    "11>72.30f 12>52.311 13>72.311 14>55.30f 15>75.30f 16>55.311 17>75.311 18>53.326 19>73.326",
    "1a>54.326 1b>74.326 1e>48.30c 1f>68.30c 26>41.307 27>61.307 28>45.327 29>65.327",
    "2a>4f.308.304 2b>6f.308.304 2c>4f.303.304 2d>6f.303.304 2e>4f.307 2f>6f.307 30>4f.307.304",
    "31>6f.307.304 32>59.304 33>79.304 b0>68 b1>266 b2>6a b3>72 b4>279 b5>27b b6>281 b7>77",
    "b8>79 d8>20.306 d9>20.307 da>20.30a db>20.328 dc>20.303 dd>20.30b e0>263 e1>6c e2>73 e3>78",
    "e4>295"]),
  (0x3, ["40-41>300 43>313 44>308.301 74>2b9 7a>20.345 7e>3b 84>20.301 85>20.308.301 86>391.301",
    "87>b7 88>395.301 89>397.301 8a>399.301 8c>39f.301 8e>3a5.301 8f>3a9.301 90>3b9.308.301",
    "aa>399.308 ab>3a5.308 ac>3b1.301 ad>3b5.301 ae>3b7.301 af>3b9.301 b0>3c5.308.301",
    "ca>3b9.308 cb>3c5.308 cc>3bf.301 cd>3c5.301 ce>3c9.301 d0>3b2 d1>3b8 d2>3a5 d3>3a5.301",
    "d4>3a5.308 d5>3c6 d6>3c0 f0>3ba f1-f2>3c1 f4>398 f5>3b5 f9>3a3"]),
  (0x4, ["00>415.300 01>415.308 03>413.301 07>406.308 0c>41a.301 0d>418.300 0e>423.306",
    "19>418.306 39>438.306 50>435.300 51>435.308 53>433.301 57>456.308 5c>43a.301 5d>438.300",
    "5e>443.306 76>474.30f 77>475.30f c1>416.306 c2>436.306 d0>410.306 d1>430.306 d2>410.308",
    "d3>430.308 d6>415.306 d7>435.306 da>4d8.308 db>4d9.308 dc>416.308 dd>436.308 de>417.308",
    "df>437.308 e2>418.304 e3>438.304 e4>418.308 e5>438.308 e6>41e.308 e7>43e.308 ea>4e8.308",
    "eb>4e9.308 ec>42d.308 ed>44d.308 ee>423.304 ef>443.304 f0>423.308 f1>443.308 f2>423.30b",
    "f3>443.30b f4>427.308 f5>447.308 f8>42b.308 f9>44b.308"]),
  (0x5, ["87>565.582"]),
  (0x6, ["22>627.653 23>627.654 24>648.654 25>627.655 26>64a.654 75>627.674 76>648.674",
    "77>6c7.674 78>64a.674 c0>6d5.654 c2>6c1.654 d3>6d2.654"]),
  (0x9, ["29>928.93c 31>930.93c 34>933.93c 58>915.93c 59>916.93c 5a>917.93c 5b>91c.93c",
    "5c>921.93c 5d>922.93c 5e>92b.93c 5f>92f.93c cb>9c7.9be cc>9c7.9d7 dc>9a1.9bc dd>9a2.9bc",
    "df>9af.9bc"]),
  (0xa, ["33>a32.a3c 36>a38.a3c 59>a16.a3c 5a>a17.a3c 5b>a1c.a3c 5e>a2b.a3c"]),
  (0xb, ["48>b47.b56 4b>b47.b3e 4c>b47.b57 5c>b21.b3c 5d>b22.b3c 94>b92.bd7 ca>bc6.bbe",
    "cb>bc7.bbe cc>bc6.bd7"]),
  (0xc, ["48>c46.c56 c0>cbf.cd5 c7>cc6.cd5 c8>cc6.cd6 ca>cc6.cc2 cb>cc6.cc2.cd5"]),
  (0xd, ["4a>d46.d3e 4b>d47.d3e 4c>d46.d57 da>dd9.dca dc>dd9.dcf dd>dd9.dcf.dca de>dd9.ddf"]),
  (0xe, ["33>e4d.e32 b3>ecd.eb2 dc>eab.e99 dd>eab.ea1"]),
  (0xf, ["0c>f0b 43>f42.fb7 4d>f4c.fb7 52>f51.fb7 57>f56.fb7 5c>f5b.fb7 69>f40.fb5 73>f71.f72",
    "75>f71.f74 76>fb2.f80 77>fb2.f71.f80 78>fb3.f80 79>fb3.f71.f80 81>f71.f80 93>f92.fb7",
    "9d>f9c.fb7 a2>fa1.fb7 a7>fa6.fb7 ac>fab.fb7 b9>f90.fb5"]),
  (0x10, ["26>1025.102e fc>10dc"]),
  (0x1b, ["06>1b05.1b35 08>1b07.1b35 0a>1b09.1b35 0c>1b0b.1b35 0e>1b0d.1b35 12>1b11.1b35",
    "3b>1b3a.1b35 3d>1b3c.1b35 40>1b3e.1b35 41>1b3f.1b35 43>1b42.1b35"]),
  (0x1d, ["2c>41 2d>c6 2e>42 30-31>44 32>18e 33-3a>47 3c>4f 3d>222 3e>50 3f>52 40-41>54 42>57",
    "43>61 44-45>250 46>1d02 47>62 48-49>64 4a>259 4b-4c>25b 4d>67 4f>6b 50>6d 51>14b 52>6f",
    "53>254 54-55>1d16 56>70 57-58>74 59>1d1d 5a>26f 5b>76 5c>1d25 5d-5f>3b2 60-61>3c6 62>69",
    "63>72 64-65>75 66-67>3b2 68>3c1 69-6a>3c6 78>43d 9b>252 9c>63 9d>255 9e>f0 9f>25c a0>66",
    "a1>25f a2>261 a3>265 a4-a6>268 a7>1d7b a8>29d a9>26d aa>1d85 ab>29f ac>271 ad>270",
    "ae-b1>272 b2>278 b3-b4>282 b5>1ab b6-b7>289 b8>1d1c b9-ba>28b bb>7a bc-be>290 bf>3b8"]),
  (0x1e, ["00>41.325 01>61.325 02>42.307 03>62.307 04>42.323 05>62.323 06>42.331 07>62.331",
    "08>43.327.301 09>63.327.301 0a>44.307 0b>64.307 0c>44.323 0d>64.323 0e>44.331 0f>64.331",
    "10>44.327 11>64.327 12>44.32d 13>64.32d 14>45.304.300 15>65.304.300 16>45.304.301",
    "17>65.304.301 18>45.32d 19>65.32d 1a>45.330 1b>65.330 1c>45.327.306 1d>65.327.306",
    "1e>46.307 1f>66.307 20>47.304 21>67.304 22>48.307 23>68.307 24>48.323 25>68.323 26>48.308",
    "27>68.308 28>48.327 29>68.327 2a>48.32e 2b>68.32e 2c>49.330 2d>69.330 2e>49.308.301",
    "2f>69.308.301 30>4b.301 31>6b.301 32>4b.323 33>6b.323 34>4b.331 35>6b.331 36>4c.323",
    "37>6c.323 38>4c.323.304 39>6c.323.304 3a>4c.331 3b>6c.331 3c>4c.32d 3d>6c.32d 3e>4d.301",
    "3f>6d.301 40>4d.307 41>6d.307 42>4d.323 43>6d.323 44>4e.307 45>6e.307 46>4e.323 47>6e.323",
    "48>4e.331 49>6e.331 4a>4e.32d 4b>6e.32d 4c>4f.303.301 4d>6f.303.301 4e>4f.303.308",
    "4f>6f.303.308 50>4f.304.300 51>6f.304.300 52>4f.304.301 53>6f.304.301 54>50.301 55>70.301",
    "56>50.307 57>70.307 58>52.307 59>72.307 5a>52.323 5b>72.323 5c>52.323.304 5d>72.323.304",
    "5e>52.331 5f>72.331 60>53.307 61>73.307 62>53.323 63>73.323 64>53.301.307 65>73.301.307",
    "66>53.30c.307 67>73.30c.307 68>53.323.307 69>73.323.307 6a>54.307 6b>74.307 6c>54.323",
    "6d>74.323 6e>54.331 6f>74.331 70>54.32d 71>74.32d 72>55.324 73>75.324 74>55.330 75>75.330",
    "76>55.32d 77>75.32d 78>55.303.301 79>75.303.301 7a>55.304.308 7b>75.304.308 7c>56.303",
    "7d>76.303 7e>56.323 7f>76.323 80>57.300 81>77.300 82>57.301 83>77.301 84>57.308 85>77.308",
    "86>57.307 87>77.307 88>57.323 89>77.323 8a>58.307 8b>78.307 8c>58.308 8d>78.308 8e>59.307",
    "8f>79.307 90>5a.302 91>7a.302 92>5a.323 93>7a.323 94>5a.331 95>7a.331 96>68.331 97>74.308",
    "98>77.30a 99>79.30a 9a>61.2be 9b>73.307 a0>41.323 a1>61.323 a2>41.309 a3>61.309",
    "a4>41.302.301 a5>61.302.301 a6>41.302.300 a7>61.302.300 a8>41.302.309 a9>61.302.309",
    "aa>41.302.303 ab>61.302.303 ac>41.323.302 ad>61.323.302 ae>41.306.301 af>61.306.301",
    "b0>41.306.300 b1>61.306.300 b2>41.306.309 b3>61.306.309 b4>41.306.303 b5>61.306.303",
    "b6>41.323.306 b7>61.323.306 b8>45.323 b9>65.323 ba>45.309 bb>65.309 bc>45.303 bd>65.303",
    "be>45.302.301 bf>65.302.301 c0>45.302.300 c1>65.302.300 c2>45.302.309 c3>65.302.309",
    "c4>45.302.303 c5>65.302.303 c6>45.323.302 c7>65.323.302 c8>49.309 c9>69.309 ca>49.323",
    "cb>69.323 cc>4f.323 cd>6f.323 ce>4f.309 cf>6f.309 d0>4f.302.301 d1>6f.302.301",
    "d2>4f.302.300 d3>6f.302.300 d4>4f.302.309 d5>6f.302.309 d6>4f.302.303 d7>6f.302.303",
    "d8>4f.323.302 d9>6f.323.302 da>4f.31b.301 db>6f.31b.301 dc>4f.31b.300 dd>6f.31b.300",
    "de>4f.31b.309 df>6f.31b.309 e0>4f.31b.303 e1>6f.31b.303 e2>4f.31b.323 e3>6f.31b.323",
    "e4>55.323 e5>75.323 e6>55.309 e7>75.309 e8>55.31b.301 e9>75.31b.301 ea>55.31b.300",
    "eb>75.31b.300 ec>55.31b.309 ed>75.31b.309 ee>55.31b.303 ef>75.31b.303 f0>55.31b.323",
    "f1>75.31b.323 f2>59.300 f3>79.300 f4>59.323 f5>79.323 f6>59.309 f7>79.309 f8>59.303",
    "f9>79.303"]),
  (0x1f, ["00>3b1.313 01>3b1.314 02>3b1.313.300 03>3b1.314.300 04>3b1.313.301 05>3b1.314.301",
    "06>3b1.313.342 07>3b1.314.342 08>391.313 09>391.314 0a>391.313.300 0b>391.314.300",
    "0c>391.313.301 0d>391.314.301 0e>391.313.342 0f>391.314.342 10>3b5.313 11>3b5.314",
    "12>3b5.313.300 13>3b5.314.300 14>3b5.313.301 15>3b5.314.301 18>395.313 19>395.314",
    "1a>395.313.300 1b>395.314.300 1c>395.313.301 1d>395.314.301 20>3b7.313 21>3b7.314",
    "22>3b7.313.300 23>3b7.314.300 24>3b7.313.301 25>3b7.314.301 26>3b7.313.342 27>3b7.314.342",
    "28>397.313 29>397.314 2a>397.313.300 2b>397.314.300 2c>397.313.301 2d>397.314.301",
    "2e>397.313.342 2f>397.314.342 30>3b9.313 31>3b9.314 32>3b9.313.300 33>3b9.314.300",
    "34>3b9.313.301 35>3b9.314.301 36>3b9.313.342 37>3b9.314.342 38>399.313 39>399.314",
    "3a>399.313.300 3b>399.314.300 3c>399.313.301 3d>399.314.301 3e>399.313.342 3f>399.314.342",
    "40>3bf.313 41>3bf.314 42>3bf.313.300 43>3bf.314.300 44>3bf.313.301 45>3bf.314.301",
    "48>39f.313 49>39f.314 4a>39f.313.300 4b>39f.314.300 4c>39f.313.301 4d>39f.314.301",
    "50>3c5.313 51>3c5.314 52>3c5.313.300 53>3c5.314.300 54>3c5.313.301 55>3c5.314.301",
    "56>3c5.313.342 57>3c5.314.342 59>3a5.314 5b>3a5.314.300 5d>3a5.314.301 5f>3a5.314.342",
    "60>3c9.313 61>3c9.314 62>3c9.313.300 63>3c9.314.300 64>3c9.313.301 65>3c9.314.301",
    "66>3c9.313.342 67>3c9.314.342 68>3a9.313 69>3a9.314 6a>3a9.313.300 6b>3a9.314.300",
    "6c>3a9.313.301 6d>3a9.314.301 6e>3a9.313.342 6f>3a9.314.342 70>3b1.300 71>3b1.301",
    "72>3b5.300 73>3b5.301 74>3b7.300 75>3b7.301 76>3b9.300 77>3b9.301 78>3bf.300 79>3bf.301",
    "7a>3c5.300 7b>3c5.301 7c>3c9.300 7d>3c9.301 80>3b1.313.345 81>3b1.314.345",
    "82>3b1.313.300.345 83>3b1.314.300.345 84>3b1.313.301.345 85>3b1.314.301.345",
    "86>3b1.313.342.345 87>3b1.314.342.345 88>391.313.345 89>391.314.345 8a>391.313.300.345",
    "8b>391.314.300.345 8c>391.313.301.345 8d>391.314.301.345 8e>391.313.342.345",
    "8f>391.314.342.345 90>3b7.313.345 91>3b7.314.345 92>3b7.313.300.345 93>3b7.314.300.345",
    "94>3b7.313.301.345 95>3b7.314.301.345 96>3b7.313.342.345 97>3b7.314.342.345 98>397.313.345",
    "99>397.314.345 9a>397.313.300.345 9b>397.314.300.345 9c>397.313.301.345 9d>397.314.301.345",
    "9e>397.313.342.345 9f>397.314.342.345 a0>3c9.313.345 a1>3c9.314.345 a2>3c9.313.300.345",
    "a3>3c9.314.300.345 a4>3c9.313.301.345 a5>3c9.314.301.345 a6>3c9.313.342.345",
    "a7>3c9.314.342.345 a8>3a9.313.345 a9>3a9.314.345 aa>3a9.313.300.345 ab>3a9.314.300.345",
    "ac>3a9.313.301.345 ad>3a9.314.301.345 ae>3a9.313.342.345 af>3a9.314.342.345 b0>3b1.306",
    "b1>3b1.304 b2>3b1.300.345 b3>3b1.345 b4>3b1.301.345 b6>3b1.342 b7>3b1.342.345 b8>391.306",
    "b9>391.304 ba>391.300 bb>391.301 bc>391.345 bd>20.313 be>3b9 bf>20.313 c0>20.342",
    "c1>20.308.342 c2>3b7.300.345 c3>3b7.345 c4>3b7.301.345 c6>3b7.342 c7>3b7.342.345",
    "c8>395.300 c9>395.301 ca>397.300 cb>397.301 cc>397.345 cd>20.313.300 ce>20.313.301",
    "cf>20.313.342 d0>3b9.306 d1>3b9.304 d2>3b9.308.300 d3>3b9.308.301 d6>3b9.342",
    "d7>3b9.308.342 d8>399.306 d9>399.304 da>399.300 db>399.301 dd>20.314.300 de>20.314.301",
    "df>20.314.342 e0>3c5.306 e1>3c5.304 e2>3c5.308.300 e3>3c5.308.301 e4>3c1.313 e5>3c1.314",
    "e6>3c5.342 e7>3c5.308.342 e8>3a5.306 e9>3a5.304 ea>3a5.300 eb>3a5.301 ec>3a1.314",
    "ed>20.308.300 ee>20.308.301 ef>60 f2>3c9.300.345 f3>3c9.345 f4>3c9.301.345 f6>3c9.342",
    "f7>3c9.342.345 f8>39f.300 f9>39f.301 fa>3a9.300 fb>3a9.301 fc>3a9.345 fd>20.301 fe>20.314"]),
  (0x20, ["00>20 01>20 02>20 03>20 04>20 05>20 06>20 07>20 08>20 09>20 0a>20 11>2010 17>20.333",
    "24>2e 25>2e.2e 26>2e.2e.2e 2f>20 33>2032.2032 34>2032.2032.2032 36>2035.2035",
    "37>2035.2035.2035 3c>21.21 3e>20.305 47>3f.3f 48>3f.21 49>21.3f 57>2032.2032.2032.2032",
    "5f>20 70>30 71>69 74-79>34 7a>2b 7b>2212 7c>3d 7d-7e>28 7f>6e 80-89>30 8a>2b 8b>2212 8c>3d",
    "8d-8e>28 90>61 91>65 92>6f 93>78 94>259 95>68 96-99>6b 9a>70 9b-9c>73 a8>52.73"]),
  (0x21, ["00>61.2f.63 01>61.2f.73 02>43 03>b0.43 05>63.2f.6f 06>63.2f.75 07>190 09>b0.46 0a>67",
    "0b>48 0c>48 0d>48 0e>68 0f>127 10>49 11>49 12>4c 13>6c 15>4e 16>4e.6f 19-1b>50 1c>52 1d>52",
    "20>53.4d 21>54.45.4c 22>54.4d 24>5a 26>3a9 28>5a 2a>4b 2b>41.30a 2c-2d>42 2f>65 30-31>45",
    "33>4d 34>6f 35-38>5d0 39>69 3b>46.41.58 3c>3c0 3d>3b3 3e>393 3f>3a0 40>2211 45>44 46-47>64",
    "48-49>69 50>31.2044.37 51>31.2044.39 52>31.2044.31.30 53>31.2044.33 54>32.2044.33",
    "55>31.2044.35 56>32.2044.35 57>33.2044.35 58>34.2044.35 59>31.2044.36 5a>35.2044.36",
    "5b>31.2044.38 5c>33.2044.38 5d>35.2044.38 5e>37.2044.38 5f>31.2044 60>49 61>49.49",
    "62>49.49.49 63>49.56 64>56 65>56.49 66>56.49.49 67>56.49.49.49 68>49.58 69>58 6a>58.49",
    "6b>58.49.49 6c>4c 6d-6e>43 6f>4d 70>69 71>69.69 72>69.69.69 73>69.76 74>76 75>76.69",
    "76>76.69.69 77>76.69.69.69 78>69.78 79>78 7a>78.69 7b>78.69.69 7c>6c 7d-7e>63 7f>6d",
    "89>30.2044.33 9a>2190.338 9b>2192.338 ae>2194.338 cd>21d0.338 ce>21d4.338 cf>21d2.338"]),
  (0x22, ["04>2203.338 09>2208.338 0c>220b.338 24>2223.338 26>2225.338 2c>222b.222b",
    "2d>222b.222b.222b 2f>222e.222e 30>222e.222e.222e 41>223c.338 44>2243.338 47>2245.338",
    "49>2248.338 60>3d.338 62>2261.338 6d>224d.338 6e>3c.338 6f>3e.338 70>2264.338 71>2265.338",
    "74>2272.338 75>2273.338 78>2276.338 79>2277.338 80>227a.338 81>227b.338 84>2282.338",
    "85>2283.338 88>2286.338 89>2287.338 ac>22a2.338 ad>22a8.338 ae>22a9.338 af>22ab.338",
    "e0>227c.338 e1>227d.338 e2>2291.338 e3>2292.338 ea>22b2.338 eb>22b3.338 ec>22b4.338",
    "ed>22b5.338"]),
  (0x23, ["29-2a>3008"]),
  (0x24, ["60-68>31 69>31.30 6a>31.31 6b>31.32 6c>31.33 6d>31.34 6e>31.35 6f>31.36 70>31.37",
    "71>31.38 72>31.39 73>32.30 74>28.31.29 75>28.32.29 76>28.33.29 77>28.34.29 78>28.35.29",
    "79>28.36.29 7a>28.37.29 7b>28.38.29 7c>28.39.29 7d>28.31.30.29 7e>28.31.31.29",
    "7f>28.31.32.29 80>28.31.33.29 81>28.31.34.29 82>28.31.35.29 83>28.31.36.29 84>28.31.37.29",
    "85>28.31.38.29 86>28.31.39.29 87>28.32.30.29 88>31.2e 89>32.2e 8a>33.2e 8b>34.2e 8c>35.2e",
    "8d>36.2e 8e>37.2e 8f>38.2e 90>39.2e 91>31.30.2e 92>31.31.2e 93>31.32.2e 94>31.33.2e",
    "95>31.34.2e 96>31.35.2e 97>31.36.2e 98>31.37.2e 99>31.38.2e 9a>31.39.2e 9b>32.30.2e",
    "9c>28.61.29 9d>28.62.29 9e>28.63.29 9f>28.64.29 a0>28.65.29 a1>28.66.29 a2>28.67.29",
    "a3>28.68.29 a4>28.69.29 a5>28.6a.29 a6>28.6b.29 a7>28.6c.29 a8>28.6d.29 a9>28.6e.29",
    "aa>28.6f.29 ab>28.70.29 ac>28.71.29 ad>28.72.29 ae>28.73.29 af>28.74.29 b0>28.75.29",
    "b1>28.76.29 b2>28.77.29 b3>28.78.29 b4>28.79.29 b5>28.7a.29 b6-cf>41 d0-e9>61 ea>30"]),
  (0x2a, ["0c>222b.222b.222b.222b 74>3a.3a.3d 75>3d.3d 76>3d.3d.3d dc>2add.338"]),
  (0x2c, ["7c>6a 7d>56"]),
  (0x2d, ["6f>2d61"]),
  (0x2e, ["9f>6bcd f3>9f9f"]),
  (0x2f, ["00>4e00 01>4e28 02>4e36 03>4e3f 04>4e59 05>4e85 06>4e8c 07>4ea0 08>4eba 09>513f",
    "0a>5165 0b>516b 0c>5182 0d>5196 0e>51ab 0f>51e0 10>51f5 11>5200 12>529b 13>52f9 14>5315",
    "15>531a 16>5338 17>5341 18>535c 19>5369 1a>5382 1b>53b6 1c>53c8 1d>53e3 1e>56d7 1f>571f",
    "20>58eb 21>5902 22>590a 23>5915 24>5927 25>5973 26>5b50 27>5b80 28>5bf8 29>5c0f 2a>5c22",
    "2b>5c38 2c>5c6e 2d>5c71 2e>5ddb 2f>5de5 30>5df1 31>5dfe 32>5e72 33>5e7a 34>5e7f 35>5ef4",
    "36>5efe 37>5f0b 38>5f13 39>5f50 3a>5f61 3b>5f73 3c>5fc3 3d>6208 3e>6236 3f>624b 40>652f",
    "41>6534 42>6587 43>6597 44>65a4 45>65b9 46>65e0 47>65e5 48>66f0 49>6708 4a>6728 4b>6b20",
    "4c>6b62 4d>6b79 4e>6bb3 4f>6bcb 50>6bd4 51>6bdb 52>6c0f 53>6c14 54>6c34 55>706b 56>722a",
    "57>7236 58>723b 59>723f 5a>7247 5b>7259 5c>725b 5d>72ac 5e>7384 5f>7389 60>74dc 61>74e6",
    "62>7518 63>751f 64>7528 65>7530 66>758b 67>7592 68>7676 69>767d 6a>76ae 6b>76bf 6c>76ee",
    "6d>77db 6e>77e2 6f>77f3 70>793a 71>79b8 72>79be 73>7a74 74>7acb 75>7af9 76>7c73 77>7cf8",
    "78>7f36 79>7f51 7a>7f8a 7b>7fbd 7c>8001 7d>800c 7e>8012 7f>8033 80>807f 81>8089 82>81e3",
    "83>81ea 84>81f3 85>81fc 86>820c 87>821b 88>821f 89>826e 8a>8272 8b>8278 8c>864d 8d>866b",
    "8e>8840 8f>884c 90>8863 91>897e 92>898b 93>89d2 94>8a00 95>8c37 96>8c46 97>8c55 98>8c78",
    "99>8c9d 9a>8d64 9b>8d70 9c>8db3 9d>8eab 9e>8eca 9f>8f9b a0>8fb0 a1>8fb5 a2>9091 a3>9149",
    "a4>91c6 a5>91cc a6>91d1 a7>9577 a8>9580 a9>961c aa>96b6 ab>96b9 ac>96e8 ad>9751 ae>975e",
    "af>9762 b0>9769 b1>97cb b2>97ed b3>97f3 b4>9801 b5>98a8 b6>98db b7>98df b8>9996 b9>9999",
    "ba>99ac bb>9aa8 bc>9ad8 bd>9adf be>9b25 bf>9b2f c0>9b32 c1>9b3c c2>9b5a c3>9ce5 c4>9e75",
    "c5>9e7f c6>9ea5 c7>9ebb c8>9ec3 c9>9ecd ca>9ed1 cb>9ef9 cc>9efd cd>9f0e ce>9f13 cf>9f20",
    "d0>9f3b d1>9f4a d2>9f52 d3>9f8d d4>9f9c d5>9fa0"]),
  (0x30, ["00>20 36>3012 38>5341 39-3a>5344 4c>304b.3099 4e>304d.3099 50>304f.3099 52>3051.3099",
    "54>3053.3099 56>3055.3099 58>3057.3099 5a>3059.3099 5c>305b.3099 5e>305d.3099 60>305f.3099",
    "62>3061.3099 65>3064.3099 67>3066.3099 69>3068.3099 70>306f.3099 71>306f.309a 73>3072.3099",
    "74>3072.309a 76>3075.3099 77>3075.309a 79>3078.3099 7a>3078.309a 7c>307b.3099 7d>307b.309a",
    "94>3046.3099 9b>20.3099 9c>20.309a 9e>309d.3099 9f>3088.308a ac>30ab.3099 ae>30ad.3099",
    "b0>30af.3099 b2>30b1.3099 b4>30b3.3099 b6>30b5.3099 b8>30b7.3099 ba>30b9.3099 bc>30bb.3099",
    "be>30bd.3099 c0>30bf.3099 c2>30c1.3099 c5>30c4.3099 c7>30c6.3099 c9>30c8.3099 d0>30cf.3099",
    "d1>30cf.309a d3>30d2.3099 d4>30d2.309a d6>30d5.3099 d7>30d5.309a d9>30d8.3099 da>30d8.309a",
    "dc>30db.3099 dd>30db.309a f4>30a6.3099 f7>30ef.3099 f8>30f0.3099 f9>30f1.3099 fa>30f2.3099",
    "fe>30fd.3099 ff>30b3.30c8"]),
  (0x31, ["31-32>1100 33>11aa 34>1102 35-36>11ac 37-39>1103 3a-3f>11b0 40>111a 41-43>1106",
    "44>1121 45-4e>1109 4f-63>1161 64>1160 65-66>1114 67-68>11c7 69>11cc 6a>11ce 6b>11d3",
    "6c>11d7 6d>11d9 6e>111c 6f>11dd 70>11df 71-72>111d 73>1120 74-75>1122 76>1127 77>1129",
    "78-7c>112b 7d>1132 7e>1136 7f>1140 80>1147 81>114c 82-83>11f1 84-86>1157 87-88>1184",
    "89>1188 8a-8b>1191 8c>1194 8d>119e 8e>11a1 92>4e00 93>4e8c 94>4e09 95>56db 96>4e0a 97>4e2d",
    "98>4e0b 99>7532 9a>4e59 9b>4e19 9c>4e01 9d>5929 9e>5730 9f>4eba"]),
  (0x32, ["00>28.1100.29 01>28.1102.29 02>28.1103.29 03>28.1105.29 04>28.1106.29 05>28.1107.29",
    "06>28.1109.29 07>28.110b.29 08>28.110c.29 09>28.110e.29 0a>28.110f.29 0b>28.1110.29",
    "0c>28.1111.29 0d>28.1112.29 0e>28.1100.1161.29 0f>28.1102.1161.29 10>28.1103.1161.29",
    "11>28.1105.1161.29 12>28.1106.1161.29 13>28.1107.1161.29 14>28.1109.1161.29",
    "15>28.110b.1161.29 16>28.110c.1161.29 17>28.110e.1161.29 18>28.110f.1161.29",
    "19>28.1110.1161.29 1a>28.1111.1161.29 1b>28.1112.1161.29 1c>28.110c.116e.29",
    "1d>28.110b.1169.110c.1165.11ab.29 1e>28.110b.1169.1112.116e.29 20>28.4e00.29 21>28.4e8c.29",
    "22>28.4e09.29 23>28.56db.29 24>28.4e94.29 25>28.516d.29 26>28.4e03.29 27>28.516b.29",
    "28>28.4e5d.29 29>28.5341.29 2a>28.6708.29 2b>28.706b.29 2c>28.6c34.29 2d>28.6728.29",
    "2e>28.91d1.29 2f>28.571f.29 30>28.65e5.29 31>28.682a.29 32>28.6709.29 33>28.793e.29",
    "34>28.540d.29 35>28.7279.29 36>28.8ca1.29 37>28.795d.29 38>28.52b4.29 39>28.4ee3.29",
    "3a>28.547c.29 3b>28.5b66.29 3c>28.76e3.29 3d>28.4f01.29 3e>28.8cc7.29 3f>28.5354.29",
    "40>28.796d.29 41>28.4f11.29 42>28.81ea.29 43>28.81f3.29 44>554f 45>5e7c 46>6587 47>7b8f",
    "50>50.54.45 51>32.31 52>32.32 53>32.33 54>32.34 55>32.35 56>32.36 57>32.37 58>32.38",
    "59>32.39 5a>33.30 5b>33.31 5c>33.32 5d>33.33 5e>33.34 5f>33.35 60>1100 61-62>1102",
    "63-65>1105 66>1109 67-68>110b 69-6d>110e 6e>1100.1161 6f>1102.1161 70>1103.1161",
    "71>1105.1161 72>1106.1161 73>1107.1161 74>1109.1161 75>110b.1161 76>110c.1161 77>110e.1161",
    "78>110f.1161 79>1110.1161 7a>1111.1161 7b>1112.1161 7c>110e.1161.11b7.1100.1169",
    "7d>110c.116e.110b.1174 7e>110b.116e 80>4e00 81>4e8c 82>4e09 83>56db 84>4e94 85>516d",
    "86>4e03 87>516b 88>4e5d 89>5341 8a>6708 8b>706b 8c>6c34 8d>6728 8e>91d1 8f>571f 90>65e5",
    "91>682a 92>6709 93>793e 94>540d 95>7279 96>8ca1 97>795d 98>52b4 99>79d8 9a>7537 9b>5973",
    "9c>9069 9d>512a 9e>5370 9f>6ce8 a0>9805 a1>4f11 a2>5199 a3>6b63 a4>4e0a a5>4e2d a6>4e0b",
    "a7>5de6 a8>53f3 a9>533b aa>5b97 ab>5b66 ac>76e3 ad>4f01 ae>8cc7 af>5354 b0>591c b1>33.36",
    "b2>33.37 b3>33.38 b4>33.39 b5>34.30 b6>34.31 b7>34.32 b8>34.33 b9>34.34 ba>34.35 bb>34.36",
    "bc>34.37 bd>34.38 be>34.39 bf>35.30 c0>31.6708 c1>32.6708 c2>33.6708 c3>34.6708 c4>35.6708",
    "c5>36.6708 c6>37.6708 c7>38.6708 c8>39.6708 c9>31.30.6708 ca>31.31.6708 cb>31.32.6708",
    "cc>48.67 cd>65.72.67 ce>65.56 cf>4c.54.44 d0>30a2 d1>30a4 d2>30a6 d3>30a8 d4-d5>30aa",
    "d6>30ad d7>30af d8>30b1 d9>30b3 da>30b5 db>30b7 dc>30b9 dd>30bb de>30bd df>30bf e0>30c1",
    "e1>30c4 e2>30c6 e3>30c8 e4-e9>30ca ea>30d2 eb>30d5 ec>30d8 ed>30db ee-f2>30de f3>30e4",
    "f4>30e6 f5-fa>30e8 fb-fe>30ef ff>4ee4.548c"]),
  (0x33, ["00>30a2.30cf.309a.30fc.30c8 01>30a2.30eb.30d5.30a1 02>30a2.30f3.30d8.309a.30a2",
    "03>30a2.30fc.30eb 04>30a4.30cb.30f3.30af.3099 05>30a4.30f3.30c1 06>30a6.30a9.30f3",
    "07>30a8.30b9.30af.30fc.30c8.3099 08>30a8.30fc.30ab.30fc 09>30aa.30f3.30b9",
    "0a>30aa.30fc.30e0 0b>30ab.30a4.30ea 0c>30ab.30e9.30c3.30c8 0d>30ab.30ed.30ea.30fc",
    "0e>30ab.3099.30ed.30f3 0f>30ab.3099.30f3.30de 10>30ad.3099.30ab.3099",
    "11>30ad.3099.30cb.30fc 12>30ad.30e5.30ea.30fc 13>30ad.3099.30eb.30bf.3099.30fc",
    "14>30ad.30ed 15>30ad.30ed.30af.3099.30e9.30e0 16>30ad.30ed.30e1.30fc.30c8.30eb",
    "17>30ad.30ed.30ef.30c3.30c8 18>30af.3099.30e9.30e0 19>30af.3099.30e9.30e0.30c8.30f3",
    "1a>30af.30eb.30bb.3099.30a4.30ed 1b>30af.30ed.30fc.30cd 1c>30b1.30fc.30b9",
    "1d>30b3.30eb.30ca 1e>30b3.30fc.30db.309a 1f>30b5.30a4.30af.30eb",
    "20>30b5.30f3.30c1.30fc.30e0 21>30b7.30ea.30f3.30af.3099 22>30bb.30f3.30c1",
    "23>30bb.30f3.30c8 24>30bf.3099.30fc.30b9 25>30c6.3099.30b7 26>30c8.3099.30eb 27>30c8.30f3",
    "28>30ca.30ce 29>30ce.30c3.30c8 2a>30cf.30a4.30c4 2b>30cf.309a.30fc.30bb.30f3.30c8",
    "2c>30cf.309a.30fc.30c4 2d>30cf.3099.30fc.30ec.30eb 2e>30d2.309a.30a2.30b9.30c8.30eb",
    "2f>30d2.309a.30af.30eb 30>30d2.309a.30b3 31>30d2.3099.30eb",
    "32>30d5.30a1.30e9.30c3.30c8.3099 33>30d5.30a3.30fc.30c8 34>30d5.3099.30c3.30b7.30a7.30eb",
    "35>30d5.30e9.30f3 36>30d8.30af.30bf.30fc.30eb 37>30d8.309a.30bd 38>30d8.309a.30cb.30d2",
    "39>30d8.30eb.30c4 3a>30d8.309a.30f3.30b9 3b>30d8.309a.30fc.30b7.3099",
    "3c>30d8.3099.30fc.30bf 3d>30db.309a.30a4.30f3.30c8 3e>30db.3099.30eb.30c8 3f>30db.30f3",
    "40>30db.309a.30f3.30c8.3099 41>30db.30fc.30eb 42>30db.30fc.30f3 43>30de.30a4.30af.30ed",
    "44>30de.30a4.30eb 45>30de.30c3.30cf 46>30de.30eb.30af 47>30de.30f3.30b7.30e7.30f3",
    "48>30df.30af.30ed.30f3 49>30df.30ea 4a>30df.30ea.30cf.3099.30fc.30eb 4b>30e1.30ab.3099",
    "4c>30e1.30ab.3099.30c8.30f3 4d>30e1.30fc.30c8.30eb 4e>30e4.30fc.30c8.3099",
    "4f>30e4.30fc.30eb 50>30e6.30a2.30f3 51>30ea.30c3.30c8.30eb 52>30ea.30e9",
    "53>30eb.30d2.309a.30fc 54>30eb.30fc.30d5.3099.30eb 55>30ec.30e0",
    "56>30ec.30f3.30c8.30b1.3099.30f3 57>30ef.30c3.30c8 58>30.70b9 59>31.70b9 5a>32.70b9",
    "5b>33.70b9 5c>34.70b9 5d>35.70b9 5e>36.70b9 5f>37.70b9 60>38.70b9 61>39.70b9 62>31.30.70b9",
    "63>31.31.70b9 64>31.32.70b9 65>31.33.70b9 66>31.34.70b9 67>31.35.70b9 68>31.36.70b9",
    "69>31.37.70b9 6a>31.38.70b9 6b>31.39.70b9 6c>32.30.70b9 6d>32.31.70b9 6e>32.32.70b9",
    "6f>32.33.70b9 70>32.34.70b9 71>68.50.61 72>64.61 73>41.55 74>62.61.72 75>6f.56 76>70.63",
    "77>64.6d 78>64.6d.32 79>64.6d.33 7a>49.55 7b>5e73.6210 7c>662d.548c 7d>5927.6b63",
    "7e>660e.6cbb 7f>682a.5f0f.4f1a.793e 80>70.41 81>6e.41 82>3bc.41 83>6d.41 84>6b.41 85>4b.42",
    "86>4d.42 87>47.42 88>63.61.6c 89>6b.63.61.6c 8a>70.46 8b>6e.46 8c>3bc.46 8d>3bc.67",
    "8e>6d.67 8f>6b.67 90>48.7a 91>6b.48.7a 92>4d.48.7a 93>47.48.7a 94>54.48.7a 95>3bc.6c",
    "96>6d.6c 97>64.6c 98>6b.6c 99>66.6d 9a>6e.6d 9b>3bc.6d 9c>6d.6d 9d>63.6d 9e>6b.6d",
    "9f>6d.6d.32 a0>63.6d.32 a1>6d.32 a2>6b.6d.32 a3>6d.6d.33 a4>63.6d.33 a5>6d.33 a6>6b.6d.33",
    "a7>6d.2215.73 a8>6d.2215.73.32 a9>50.61 aa>6b.50.61 ab>4d.50.61 ac>47.50.61 ad>72.61.64",
    "ae>72.61.64.2215.73 af>72.61.64.2215.73.32 b0>70.73 b1>6e.73 b2>3bc.73 b3>6d.73 b4>70.56",
    "b5>6e.56 b6>3bc.56 b7>6d.56 b8>6b.56 b9>4d.56 ba>70.57 bb>6e.57 bc>3bc.57 bd>6d.57",
    "be>6b.57 bf>4d.57 c0>6b.3a9 c1>4d.3a9 c2>61.2e.6d.2e c3>42.71 c4>63.63 c5>63.64",
    "c6>43.2215.6b.67 c7>43.6f.2e c8>64.42 c9>47.79 ca>68.61 cb>48.50 cc>69.6e cd>4b.4b",
    "ce>4b.4d cf>6b.74 d0>6c.6d d1>6c.6e d2>6c.6f.67 d3>6c.78 d4>6d.62 d5>6d.69.6c d6>6d.6f.6c",
    "d7>50.48 d8>70.2e.6d.2e d9>50.50.4d da>50.52 db>73.72 dc>53.76 dd>57.62 de>56.2215.6d",
    "df>41.2215.6d e0>31.65e5 e1>32.65e5 e2>33.65e5 e3>34.65e5 e4>35.65e5 e5>36.65e5 e6>37.65e5",
    "e7>38.65e5 e8>39.65e5 e9>31.30.65e5 ea>31.31.65e5 eb>31.32.65e5 ec>31.33.65e5",
    "ed>31.34.65e5 ee>31.35.65e5 ef>31.36.65e5 f0>31.37.65e5 f1>31.38.65e5 f2>31.39.65e5",
    "f3>32.30.65e5 f4>32.31.65e5 f5>32.32.65e5 f6>32.33.65e5 f7>32.34.65e5 f8>32.35.65e5",
    "f9>32.36.65e5 fa>32.37.65e5 fb>32.38.65e5 fc>32.39.65e5 fd>33.30.65e5 fe>33.31.65e5",
    "ff>67.61.6c"]),
  (0xa6, ["9c>44a 9d>44c"]),
  (0xa7, ["70>a76f f2>43 f3>46 f4>51 f8>126 f9>153"]),
  (0xab, ["5c>a727 5d>ab37 5e>26b 5f>ab52 69>28d"]),
  (0xf9, ["00>8c48 01>66f4 02>8eca 03>8cc8 04>6ed1 05>4e32 06>53e5 07>9f9c 08>9f9c 09>5951",
    "0a>91d1 0b>5587 0c>5948 0d>61f6 0e>7669 0f>7f85 10>863f 11>87ba 12>88f8 13>908f 14>6a02",
    "15>6d1b 16>70d9 17>73de 18>843d 19>916a 1a>99f1 1b>4e82 1c>5375 1d>6b04 1e>721b 1f>862d",
    "20>9e1e 21>5d50 22>6feb 23>85cd 24>8964 25>62c9 26>81d8 27>881f 28>5eca 29>6717 2a>6d6a",
    "2b>72fc 2c>90ce 2d>4f86 2e>51b7 2f>52de 30>64c4 31>6ad3 32>7210 33>76e7 34>8001 35>8606",
    "36>865c 37>8def 38>9732 39>9b6f 3a>9dfa 3b>788c 3c>797f 3d>7da0 3e>83c9 3f>9304 40>9e7f",
    "41>8ad6 42>58df 43>5f04 44>7c60 45>807e 46>7262 47>78ca 48>8cc2 49>96f7 4a>58d8 4b>5c62",
    "4c>6a13 4d>6dda 4e>6f0f 4f>7d2f 50>7e37 51>964b 52>52d2 53>808b 54>51dc 55>51cc 56>7a1c",
    "57>7dbe 58>83f1 59>9675 5a>8b80 5b>62cf 5c>6a02 5d>8afe 5e>4e39 5f>5be7 60>6012 61>7387",
    "62>7570 63>5317 64>78fb 65>4fbf 66>5fa9 67>4e0d 68>6ccc 69>6578 6a>7d22 6b>53c3 6c>585e",
    "6d>7701 6e>8449 6f>8aaa 70>6bba 71>8fb0 72>6c88 73>62fe 74>82e5 75>63a0 76>7565 77>4eae",
    "78>5169 79>51c9 7a>6881 7b>7ce7 7c>826f 7d>8ad2 7e>91cf 7f>52f5 80>5442 81>5973 82>5eec",
    "83>65c5 84>6ffe 85>792a 86>95ad 87>9a6a 88>9e97 89>9ece 8a>529b 8b>66c6 8c>6b77 8d>8f62",
    "8e>5e74 8f>6190 90>6200 91>649a 92>6f23 93>7149 94>7489 95>79ca 96>7df4 97>806f 98>8f26",
    "99>84ee 9a>9023 9b>934a 9c>5217 9d>52a3 9e>54bd 9f>70c8 a0>88c2 a1>8aaa a2>5ec9 a3>5ff5",
    "a4>637b a5>6bae a6>7c3e a7>7375 a8>4ee4 a9>56f9 aa>5be7 ab>5dba ac>601c ad>73b2 ae>7469",
    "af>7f9a b0>8046 b1>9234 b2>96f6 b3>9748 b4>9818 b5>4f8b b6>79ae b7>91b4 b8>96b8 b9>60e1",
    "ba>4e86 bb>50da bc>5bee bd>5c3f be>6599 bf>6a02 c0>71ce c1>7642 c2>84fc c3>907c c4>9f8d",
    "c5>6688 c6>962e c7>5289 c8>677b c9>67f3 ca>6d41 cb>6e9c cc>7409 cd>7559 ce>786b cf>7d10",
    "d0>985e d1>516d d2>622e d3>9678 d4>502b d5>5d19 d6>6dea d7>8f2a d8>5f8b d9>6144 da>6817",
    "db>7387 dc>9686 dd>5229 de>540f df>5c65 e0>6613 e1>674e e2>68a8 e3>6ce5 e4>7406 e5>75e2",
    "e6>7f79 e7>88cf e8>88e1 e9>91cc ea>96e2 eb>533f ec>6eba ed>541d ee>71d0 ef>7498 f0>85fa",
    "f1>96a3 f2>9c57 f3>9e9f f4>6797 f5>6dcb f6>81e8 f7>7acb f8>7b20 f9>7c92 fa>72c0 fb>7099",
    "fc>8b58 fd>4ec0 fe>8336 ff>523a"]),
  (0xfa, ["00>5207 01>5ea6 02>62d3 03>7cd6 04>5b85 05>6d1e 06>66b4 07>8f3b 08>884c 09>964d",
    "0a>898b 0b>5ed3 0c>5140 0d>55c0 10>585a 12>6674 15>51de 16>732a 17>76ca 18>793c 19>795e",
    "1a>7965 1b>798f 1c>9756 1d>7cbe 1e>7fbd 20>8612 22>8af8 25>9038 26>90fd 2a>98ef 2b>98fc",
    "2c>9928 2d>9db4 2e>90de 2f>96b7 30>4fae 31>50e7 32>514d 33>52c9 34>52e4 35>5351 36>559d",
    "37>5606 38>5668 39>5840 3a>58a8 3b>5c64 3c>5c6e 3d>6094 3e>6168 3f>618e 40>61f2 41>654f",
    "42>65e2 43>6691 44>6885 45>6d77 46>6e1a 47>6f22 48>716e 49>722b 4a>7422 4b>7891 4c>793e",
    "4d>7949 4e>7948 4f>7950 50>7956 51>795d 52-53>798d 54>7a40 55>7a81 56>7bc0 57>7df4 58>7e09",
    "59>7e41 5a>7f72 5b>8005 5c>81ed 5d>8279 5e>8279 5f>8457 60>8910 61>8996 62>8b01 63>8b39",
    "64>8cd3 65>8d08 66>8fb6 67>9038 68>96e3 69>97ff 6a>983b 6b>6075 6c>242ee 6d>8218 70>4e26",
    "71>51b5 72>5168 73>4f80 74>5145 75>5180 76>52c7 77>52fa 78>559d 79>5555 7a>5599 7b>55e2",
    "7c>585a 7d>58b3 7e>5944 7f>5954 80>5a62 81>5b28 82>5ed2 83>5ed9 84>5f69 85>5fad 86>60d8",
    "87>614e 88>6108 89>618e 8a>6160 8b>61f2 8c>6234 8d>63c4 8e>641c 8f>6452 90>6556 91>6674",
    "92>6717 93>671b 94>6756 95>6b79 96>6bba 97>6d41 98>6edb 99>6ecb 9a>6f22 9b>701e 9c>716e",
    "9d>77a7 9e>7235 9f>72af a0>732a a1>7471 a2>7506 a3>753b a4>761d a5>761f a6>76ca a7>76db",
    "a8>76f4 a9>774a aa>7740 ab>78cc ac>7ab1 ad>7bc0 ae>7c7b af>7d5b b0>7df4 b1>7f3e b2>8005",
    "b3>8352 b4>83ef b5>8779 b6>8941 b7>8986 b8>8996 b9>8abf ba>8af8 bb>8acb bc>8b01 bd>8afe",
    "be>8aed bf>8b39 c0>8b8a c1>8d08 c2>8f38 c3>9072 c4>9199 c5>9276 c6>967c c7>96e3 c8>9756",
    "c9>97db ca>97ff cb>980b cc>983b cd>9b12 ce>9f9c cf>2284a d0>22844 d1>233d5 d2>3b9d d3>4018",
    "d4>4039 d5>25249 d6>25cd0 d7>27ed3 d8>9f43 d9>9f8e"]),
  (0xfb, ["00>66.66 01>66.69 02>66.6c 03>66.66.69 04>66.66.6c 05>73.74 06>73.74 13>574.576",
    "14>574.565 15>574.56b 16>57e.576 17>574.56d 1d>5d9.5b4 1f>5f2.5b7 20>5e2 21>5d0 22-23>5d3",
    "24-26>5db 27>5e8 28>5ea 29>2b 2a>5e9.5c1 2b>5e9.5c2 2c>5e9.5bc.5c1 2d>5e9.5bc.5c2",
    "2e>5d0.5b7 2f>5d0.5b8 30>5d0.5bc 31>5d1.5bc 32>5d2.5bc 33>5d3.5bc 34>5d4.5bc 35>5d5.5bc",
    "36>5d6.5bc 38>5d8.5bc 39>5d9.5bc 3a>5da.5bc 3b>5db.5bc 3c>5dc.5bc 3e>5de.5bc 40>5e0.5bc",
    "41>5e1.5bc 43>5e3.5bc 44>5e4.5bc 46>5e6.5bc 47>5e7.5bc 48>5e8.5bc 49>5e9.5bc 4a>5ea.5bc",
    "4b>5d5.5b9 4c>5d1.5bf 4d>5db.5bf 4e>5e4.5bf 4f>5d0.5dc 50>671 51>671 52>67b 53>67b 54>67b",
    "55>67b 56>67e 57>67e 58>67e 59>67e 5a>680 5b>680 5c>680 5d>680 5e>67a 5f>67a 60>67a 61>67a",
    "62>67f 63>67f 64>67f 65>67f 66>679 67>679 68>679 69>679 6a>6a4 6b>6a4 6c>6a4 6d>6a4 6e>6a6",
    "6f>6a6 70>6a6 71>6a6 72>684 73>684 74>684 75>684 76>683 77>683 78>683 79>683 7a>686 7b>686",
    "7c>686 7d-7e>686 7f>687 80>687 81>687 82>68d 83>68d 84>68c 85>68c 86>68e 87>68e 88>688",
    "89>688 8a>698 8b>698 8c>691 8d>691 8e>6a9 8f>6a9 90>6a9 91>6a9 92>6af 93>6af 94>6af 95>6af",
    "96>6b3 97>6b3 98>6b3 99>6b3 9a>6b1 9b>6b1 9c>6b1 9d>6b1 9e>6ba 9f-a0>6ba a1>6bb a2>6bb",
    "a3>6bb a4>6d5.654 a5>6d5.654 a6>6c1 a7>6c1 a8>6c1 a9>6c1 aa>6be ab>6be ac>6be ad>6be",
    "ae>6d2 af>6d2 b0>6d2.654 b1>6d2.654 d3>6ad d4>6ad d5>6ad d6>6ad d7>6c7 d8>6c7 d9>6c6",
    "da>6c6 db>6c8 dc>6c8 dd>6c7.674 de>6cb df>6cb e0>6c5 e1>6c5 e2>6c9 e3>6c9 e4>6d0 e5>6d0",
    "e6>6d0 e7>6d0 e8>649 e9>649 ea>64a.654.627 eb>64a.654.627 ec>64a.654.6d5 ed>64a.654.6d5",
    "ee>64a.654.648 ef>64a.654.648 f0>64a.654.6c7 f1>64a.654.6c7 f2>64a.654.6c6 f3>64a.654.6c6",
    "f4>64a.654.6c8 f5>64a.654.6c8 f6>64a.654.6d0 f7>64a.654.6d0 f8>64a.654.6d0 f9>64a.654.649",
    "fa>64a.654.649 fb>64a.654.649 fc>6cc fd>6cc fe>6cc ff>6cc"]),
  (0xfc, ["00>64a.654.62c 01>64a.654.62d 02>64a.654.645 03>64a.654.649 04>64a.654.64a",
    "05>628.62c 06>628.62d 07>628.62e 08>628.645 09>628.649 0a>628.64a 0b>62a.62c 0c>62a.62d",
    "0d>62a.62e 0e>62a.645 0f>62a.649 10>62a.64a 11>62b.62c 12>62b.645 13>62b.649 14>62b.64a",
    "15>62c.62d 16>62c.645 17>62d.62c 18>62d.645 19>62e.62c 1a>62e.62d 1b>62e.645 1c>633.62c",
    "1d>633.62d 1e>633.62e 1f>633.645 20>635.62d 21>635.645 22>636.62c 23>636.62d 24>636.62e",
    "25>636.645 26>637.62d 27>637.645 28>638.645 29>639.62c 2a>639.645 2b>63a.62c 2c>63a.645",
    "2d>641.62c 2e>641.62d 2f>641.62e 30>641.645 31>641.649 32>641.64a 33>642.62d 34>642.645",
    "35>642.649 36>642.64a 37>643.627 38>643.62c 39>643.62d 3a>643.62e 3b>643.644 3c>643.645",
    "3d>643.649 3e>643.64a 3f>644.62c 40>644.62d 41>644.62e 42>644.645 43>644.649 44>644.64a",
    "45>645.62c 46>645.62d 47>645.62e 48>645.645 49>645.649 4a>645.64a 4b>646.62c 4c>646.62d",
    "4d>646.62e 4e>646.645 4f>646.649 50>646.64a 51>647.62c 52>647.645 53>647.649 54>647.64a",
    "55>64a.62c 56>64a.62d 57>64a.62e 58>64a.645 59>64a.649 5a>64a.64a 5b>630.670 5c>631.670",
    "5d>649.670 5e>20.64c.651 5f>20.64d.651 60>20.64e.651 61>20.64f.651 62>20.650.651",
    "63>20.651.670 64>64a.654.631 65>64a.654.632 66>64a.654.645 67>64a.654.646 68>64a.654.649",
    "69>64a.654.64a 6a>628.631 6b>628.632 6c>628.645 6d>628.646 6e>628.649 6f>628.64a",
    "70>62a.631 71>62a.632 72>62a.645 73>62a.646 74>62a.649 75>62a.64a 76>62b.631 77>62b.632",
    "78>62b.645 79>62b.646 7a>62b.649 7b>62b.64a 7c>641.649 7d>641.64a 7e>642.649 7f>642.64a",
    "80>643.627 81>643.644 82>643.645 83>643.649 84>643.64a 85>644.645 86>644.649 87>644.64a",
    "88>645.627 89>645.645 8a>646.631 8b>646.632 8c>646.645 8d>646.646 8e>646.649 8f>646.64a",
    "90>649.670 91>64a.631 92>64a.632 93>64a.645 94>64a.646 95>64a.649 96>64a.64a",
    "97>64a.654.62c 98>64a.654.62d 99>64a.654.62e 9a>64a.654.645 9b>64a.654.647 9c>628.62c",
    "9d>628.62d 9e>628.62e 9f>628.645 a0>628.647 a1>62a.62c a2>62a.62d a3>62a.62e a4>62a.645",
    "a5>62a.647 a6>62b.645 a7>62c.62d a8>62c.645 a9>62d.62c aa>62d.645 ab>62e.62c ac>62e.645",
    "ad>633.62c ae>633.62d af>633.62e b0>633.645 b1>635.62d b2>635.62e b3>635.645 b4>636.62c",
    "b5>636.62d b6>636.62e b7>636.645 b8>637.62d b9>638.645 ba>639.62c bb>639.645 bc>63a.62c",
    "bd>63a.645 be>641.62c bf>641.62d c0>641.62e c1>641.645 c2>642.62d c3>642.645 c4>643.62c",
    "c5>643.62d c6>643.62e c7>643.644 c8>643.645 c9>644.62c ca>644.62d cb>644.62e cc>644.645",
    "cd>644.647 ce>645.62c cf>645.62d d0>645.62e d1>645.645 d2>646.62c d3>646.62d d4>646.62e",
    "d5>646.645 d6>646.647 d7>647.62c d8>647.645 d9>647.670 da>64a.62c db>64a.62d dc>64a.62e",
    "dd>64a.645 de>64a.647 df>64a.654.645 e0>64a.654.647 e1>628.645 e2>628.647 e3>62a.645",
    "e4>62a.647 e5>62b.645 e6>62b.647 e7>633.645 e8>633.647 e9>634.645 ea>634.647 eb>643.644",
    "ec>643.645 ed>644.645 ee>646.645 ef>646.647 f0>64a.645 f1>64a.647 f2>640.64e.651",
    "f3>640.64f.651 f4>640.650.651 f5>637.649 f6>637.64a f7>639.649 f8>639.64a f9>63a.649",
    "fa>63a.64a fb>633.649 fc>633.64a fd>634.649 fe>634.64a ff>62d.649"]),
  (0xfd, ["00>62d.64a 01>62c.649 02>62c.64a 03>62e.649 04>62e.64a 05>635.649 06>635.64a",
    "07>636.649 08>636.64a 09>634.62c 0a>634.62d 0b>634.62e 0c>634.645 0d>634.631 0e>633.631",
    "0f>635.631 10>636.631 11>637.649 12>637.64a 13>639.649 14>639.64a 15>63a.649 16>63a.64a",
    "17>633.649 18>633.64a 19>634.649 1a>634.64a 1b>62d.649 1c>62d.64a 1d>62c.649 1e>62c.64a",
    "1f>62e.649 20>62e.64a 21>635.649 22>635.64a 23>636.649 24>636.64a 25>634.62c 26>634.62d",
    "27>634.62e 28>634.645 29>634.631 2a>633.631 2b>635.631 2c>636.631 2d>634.62c 2e>634.62d",
    "2f>634.62e 30>634.645 31>633.647 32>634.647 33>637.645 34>633.62c 35>633.62d 36>633.62e",
    "37>634.62c 38>634.62d 39>634.62e 3a>637.645 3b>638.645 3c>627.64b 3d>627.64b",
    "50>62a.62c.645 51>62a.62d.62c 52>62a.62d.62c 53>62a.62d.645 54>62a.62e.645 55>62a.645.62c",
    "56>62a.645.62d 57>62a.645.62e 58>62c.645.62d 59>62c.645.62d 5a>62d.645.64a 5b>62d.645.649",
    "5c>633.62d.62c 5d>633.62c.62d 5e>633.62c.649 5f>633.645.62d 60>633.645.62d 61>633.645.62c",
    "62>633.645.645 63>633.645.645 64>635.62d.62d 65>635.62d.62d 66>635.645.645 67>634.62d.645",
    "68>634.62d.645 69>634.62c.64a 6a>634.645.62e 6b>634.645.62e 6c>634.645.645 6d>634.645.645",
    "6e>636.62d.649 6f>636.62e.645 70>636.62e.645 71>637.645.62d 72>637.645.62d 73>637.645.645",
    "74>637.645.64a 75>639.62c.645 76>639.645.645 77>639.645.645 78>639.645.649 79>63a.645.645",
    "7a>63a.645.64a 7b>63a.645.649 7c>641.62e.645 7d>641.62e.645 7e>642.645.62d 7f>642.645.645",
    "80>644.62d.645 81>644.62d.64a 82>644.62d.649 83>644.62c.62c 84>644.62c.62c 85>644.62e.645",
    "86>644.62e.645 87>644.645.62d 88>644.645.62d 89>645.62d.62c 8a>645.62d.645 8b>645.62d.64a",
    "8c>645.62c.62d 8d>645.62c.645 8e>645.62e.62c 8f>645.62e.645 92>645.62c.62e 93>647.645.62c",
    "94>647.645.645 95>646.62d.645 96>646.62d.649 97>646.62c.645 98>646.62c.645 99>646.62c.649",
    "9a>646.645.64a 9b>646.645.649 9c>64a.645.645 9d>64a.645.645 9e>628.62e.64a 9f>62a.62c.64a",
    "a0>62a.62c.649 a1>62a.62e.64a a2>62a.62e.649 a3>62a.645.64a a4>62a.645.649 a5>62c.645.64a",
    "a6>62c.62d.649 a7>62c.645.649 a8>633.62e.649 a9>635.62d.64a aa>634.62d.64a ab>636.62d.64a",
    "ac>644.62c.64a ad>644.645.64a ae>64a.62d.64a af>64a.62c.64a b0>64a.645.64a b1>645.645.64a",
    "b2>642.645.64a b3>646.62d.64a b4>642.645.62d b5>644.62d.645 b6>639.645.64a b7>643.645.64a",
    "b8>646.62c.62d b9>645.62e.64a ba>644.62c.645 bb>643.645.645 bc>644.62c.645 bd>646.62c.62d",
    "be>62c.62d.64a bf>62d.62c.64a c0>645.62c.64a c1>641.645.64a c2>628.62d.64a c3>643.645.645",
    "c4>639.62c.645 c5>635.645.645 c6>633.62e.64a c7>646.62c.64a f0>635.644.6d2 f1>642.644.6d2",
    "f2>627.644.644.647 f3>627.643.628.631 f4>645.62d.645.62f f5>635.644.639.645",
    "f6>631.633.648.644 f7>639.644.64a.647 f8>648.633.644.645 f9>635.644.649",
    "fa>635.644.649.20.627.644.644.647.20.639.644.64a.647.20.648.633.644.645",
    "fb>62c.644.20.62c.644.627.644.647 fc>631.6cc.627.644"]),
  (0xfe, ["10>2c 11-12>3001 13-14>3a 15>21 16>3f 17-18>3016 19>2e.2e.2e 30>2e.2e 31>2014",
    "32>2013 33>5f 34>5f 35-36>28 37>7b 38>7d 39-3a>3014 3b-3c>3010 3d-3e>300a 3f-40>3008",
    "41-44>300c 47>5b 48>5d 49>20.305 4a>20.305 4b>20.305 4c>20.305 4d>5f 4e>5f 4f>5f 50>2c",
    "51>3001 52>2e 54>3b 55>3a 56>3f 57>21 58>2014 59-5a>28 5b>7b 5c>7d 5d-5e>3014 5f>23 60>26",
    "61-62>2a 63>2d 64>3c 65>3e 66>3d 68>5c 69-6a>24 6b>40 70>20.64b 71>640.64b 72>20.64c",
    "74>20.64d 76>20.64e 77>640.64e 78>20.64f 79>640.64f 7a>20.650 7b>640.650 7c>20.651",
    "7d>640.651 7e>20.652 7f>640.652 80>621 81>627.653 82>627.653 83>627.654 84>627.654",
    "85>648.654 86>648.654 87>627.655 88>627.655 89>64a.654 8a>64a.654 8b>64a.654 8c>64a.654",
    "8d>627 8e-8f>627 90>628 91>628 92-93>628 94-95>629 96>62a 97>62a 98-99>62a 9a>62b 9b>62b",
    "9c-9d>62b 9e>62c 9f>62c a0-a1>62c a2>62d a3>62d a4-a5>62d a6>62e a7>62e a8-a9>62e",
    "aa-ab>62f ac-ad>630 ae-af>631 b0-b1>632 b2>633 b3>633 b4-b5>633 b6>634 b7>634 b8-b9>634",
    "ba>635 bb>635 bc-bd>635 be>636 bf>636 c0-c1>636 c2>637 c3>637 c4-c5>637 c6>638 c7>638",
    "c8-c9>638 ca>639 cb>639 cc-cd>639 ce>63a cf>63a d0>63a d1>641 d2>641 d3>641 d4-d5>641",
    "d6>642 d7>642 d8-d9>642 da>643 db>643 dc-dd>643 de>644 df>644 e0-e1>644 e2>645 e3>645",
    "e4-e5>645 e6>646 e7>646 e8-e9>646 ea>647 eb>647 ec-ed>647 ee-ef>648 f0-f1>649 f2>64a",
    "f3>64a f4>64a f5>644.627.653 f6>644.627.653 f7>644.627.654 f8>644.627.654 f9>644.627.655",
    "fa>644.627.655 fb>644.627 fc>644.627"]),
  (0xff, ["01-5e>21 5f-60>2985 61>3002 62-63>300c 64>3001 65>30fb 66>30f2 67>30a1 68>30a3",
    "69>30a5 6a>30a7 6b>30a9 6c>30e3 6d>30e5 6e>30e7 6f>30c3 70>30fc 71>30a2 72>30a4 73>30a6",
    "74>30a8 75-76>30aa 77>30ad 78>30af 79>30b1 7a>30b3 7b>30b5 7c>30b7 7d>30b9 7e>30bb 7f>30bd",
    "80>30bf 81>30c1 82>30c4 83>30c6 84>30c8 85-8a>30ca 8b>30d2 8c>30d5 8d>30d8 8e>30db",
    "8f-93>30de 94>30e4 95>30e6 96-9b>30e8 9c>30ef 9d>30f3 9e-9f>3099 a0>1160 a1-a2>1100",
    "a3>11aa a4>1102 a5-a6>11ac a7-a9>1103 aa-af>11b0 b0>111a b1-b3>1106 b4>1121 b5-be>1109",
    "c2-c7>1161 ca-cf>1167 d2-d7>116d da-dc>1173 e0-e1>a2 e2>ac e3>20.304 e4>a6 e5>a5 e6>20a9",
    "e8>2502 e9-ec>2190 ed>25a0 ee>25cb"]),
  (0x107, ["81-82>2d0 83>e6 84>299 85>253 87>2a3 88>ab66 89>2a5 8a>2a4 8b-8c>256 8d>1d91 8e>258",
    "8f>25e 90>2a9 91>264 92>262 93>260 94>29b 95>127 96>29c 97>267 98>284 99-9a>2aa 9b>26c",
    "9c>1df04 9d>a78e 9e>26e 9f>1df05 a0>28e a1>1df06 a2>f8 a3-a4>276 a5>71 a6>27a a7>1df08",
    "a8-a9>27d aa>280 ab>2a8 ac>2a6 ad>ab67 ae>2a7 af>288 b0>2c71 b2>28f b3-b4>2a1 b5>298",
    "b6-b8>1c0 b9>1df0a ba>1df1e"]),
  (0x110, ["9a>11099.110ba 9c>1109b.110ba ab>110a5.110ba"]),
  (0x111, ["2e>11131.11127 2f>11132.11127"]),
  (0x113, ["4b>11347.1133e 4c>11347.11357"]),
  (0x114, ["bb>114b9.114ba bc>114b9.114b0 be>114b9.114bd"]),
  (0x115, ["ba>115b8.115af bb>115b9.115af"]),
  (0x119, ["38>11935.11930"]),
  (0x1d1, ["5e>1d157.1d165 5f>1d158.1d165 60>1d158.1d165.1d16e 61>1d158.1d165.1d16f",
    "62>1d158.1d165.1d170 63>1d158.1d165.1d171 64>1d158.1d165.1d172 bb>1d1b9.1d165",
    "bc>1d1ba.1d165 bd>1d1b9.1d165.1d16e be>1d1ba.1d165.1d16e bf>1d1b9.1d165.1d16f",
    "c0>1d1ba.1d165.1d16f"]),
  (0x1d4, ["00-19>41 1a-33>61 34-4d>41 4e-54>61 56-67>69 68-81>41 82-9b>61 9c>41 9e-9f>43 a2>47",
    "a5-a6>4a a9-ac>4e ae-b5>53 b6-b9>61 bb>66 bd-c3>68 c5-cf>70 d0-e9>41 ea-ff>61"]),
  (0x1d5, ["00-03>77 04-05>41 07-0a>44 0d-14>4a 16-1c>53 1e-37>61 38-39>41 3b-3e>44 40-44>49",
    "46>4f 4a-50>53 52-6b>61 6c-85>41 86-9f>61 a0-b9>41 ba-d3>61 d4-ed>41 ee-ff>61"]),
  (0x1d6, ["00-07>73 08-21>41 22-3b>61 3c-55>41 56-6f>61 70-89>41 8a-a3>61 a4>131 a5>237",
    "a8-b8>391 b9>398 ba-c0>3a3 c1>2207 c2-da>3b1 db>2202 dc>3b5 dd>3b8 de>3ba df>3c6 e0>3c1",
    "e1>3c0 e2-f2>391 f3>398 f4-fa>3a3 fb>2207 fc-ff>3b1"]),
  (0x1d7, ["00-14>3b5 15>2202 16>3b5 17>3b8 18>3ba 19>3c6 1a>3c1 1b>3c0 1c-2c>391 2d>398",
    "2e-34>3a3 35>2207 36-4e>3b1 4f>2202 50>3b5 51>3b8 52>3ba 53>3c6 54>3c1 55>3c0 56-66>391",
    "67>398 68-6e>3a3 6f>2207 70-88>3b1 89>2202 8a>3b5 8b>3b8 8c>3ba 8d>3c6 8e>3c1 8f>3c0",
    "90-a0>391 a1>398 a2-a8>3a3 a9>2207 aa-c2>3b1 c3>2202 c4>3b5 c5>3b8 c6>3ba c7>3c6 c8>3c1",
    "c9>3c0 ca-cb>3dc ce-d7>30 d8-e1>30 e2-eb>30 ec-f5>30 f6-ff>30"]),
  (0x1ee, ["00-01>627 02>62c 03>62f 05>648 06>632 07>62d 08>637 09>64a 0a-0d>643 0e>633 0f>639",
    "10>641 11>635 12>642 13>631 14>634 15-16>62a 17>62e 18>630 19>636 1a>638 1b>63a 1c>66e",
    "1d>6ba 1e>6a1 1f>66f 21>628 22>62c 24>647 27>62d 29>64a 2a-2d>643 2e>633 2f>639 30>641",
    "31>635 32>642 34>634 35-36>62a 37>62e 39>636 3b>63a 42>62c 47>62d 49>64a 4b>644 4d>646",
    "4e>633 4f>639 51>635 52>642 54>634 57>62e 59>636 5b>63a 5d>6ba 5f>66f 61>628 62>62c 64>647",
    "67>62d 68>637 69>64a 6a>643 6c-6d>645 6e>633 6f>639 70>641 71>635 72>642 74>634 75-76>62a",
    "77>62e 79>636 7a>638 7b>63a 7c>66e 7e>6a1 80-81>627 82>62c 83>62f 84-85>647 86>632 87>62d",
    "88>637 89>64a 8b-8d>644 8e>633 8f>639 90>641 91>635 92>642 93>631 94>634 95-96>62a 97>62e",
    "98>630 99>636 9a>638 9b>63a a1>628 a2>62c a3>62f a5>648 a6>632 a7>62d a8>637 a9>64a",
    "ab-ad>644 ae>633 af>639 b0>641 b1>635 b2>642 b3>631 b4>634 b5-b6>62a b7>62e b8>630 b9>636",
    "ba>638 bb>63a"]),
  (0x1f1, ["00>30.2e 01>30.2c 02>31.2c 03>32.2c 04>33.2c 05>34.2c 06>35.2c 07>36.2c 08>37.2c",
    "09>38.2c 0a>39.2c 10>28.41.29 11>28.42.29 12>28.43.29 13>28.44.29 14>28.45.29 15>28.46.29",
    "16>28.47.29 17>28.48.29 18>28.49.29 19>28.4a.29 1a>28.4b.29 1b>28.4c.29 1c>28.4d.29",
    "1d>28.4e.29 1e>28.4f.29 1f>28.50.29 20>28.51.29 21>28.52.29 22>28.53.29 23>28.54.29",
    "24>28.55.29 25>28.56.29 26>28.57.29 27>28.58.29 28>28.59.29 29>28.5a.29 2a>3014.53.3015",
    "2b>43 2c>52 2d>43.44 2e>57.5a 30-49>41 4a>48.56 4b>4d.56 4c>53.44 4d>53.53 4e>50.50.56",
    "4f>57.43 6a>4d.43 6b>4d.44 6c>4d.52 90>44.4a"]),
  (0x1f2, ["00>307b.304b 01>30b3.30b3 02>30b5 10>624b 11>5b57 12>53cc 13>30c6.3099 14>4e8c",
    "15>591a 16>89e3 17>5929 18>4ea4 19>6620 1a>7121 1b>6599 1c>524d 1d>5f8c 1e>518d 1f>65b0",
    "20>521d 21>7d42 22>751f 23>8ca9 24>58f0 25>5439 26>6f14 27>6295 28>6355 29>4e00 2a>4e09",
    "2b>904a 2c>5de6 2d>4e2d 2e>53f3 2f>6307 30>8d70 31>6253 32>7981 33>7a7a 34>5408 35>6e80",
    "36>6709 37>6708 38>7533 39>5272 3a>55b6 3b>914d 40>3014.672c.3015 41>3014.4e09.3015",
    "42>3014.4e8c.3015 43>3014.5b89.3015 44>3014.70b9.3015 45>3014.6253.3015 46>3014.76d7.3015",
    "47>3014.52dd.3015 48>3014.6557.3015 50>5f97 51>53ef"]),
  (0x1fb, ["f0-f9>30"]),
  (0x2f8, ["00>4e3d 01>4e38 02>4e41 03>20122 04>4f60 05>4fae 06>4fbb 07>5002 08>507a 09>5099",
    "0a>50e7 0b>50cf 0c>349e 0d>2063a 0e>514d 0f>5154 10>5164 11>5177 12>2051c 13>34b9 14>5167",
    "15>518d 16>2054b 17>5197 18>51a4 19>4ecc 1a>51ac 1b>51b5 1c>291df 1d>51f5 1e>5203 1f>34df",
    "20>523b 21>5246 22>5272 23>5277 24>3515 25>52c7 26>52c9 27>52e4 28>52fa 29-2a>5305 2b>5317",
    "2c>5349 2d>5351 2e>535a 2f>5373 30>537d 31>537f 32>537f 33>537f 34>20a2c 35>7070 36>53ca",
    "37>53df 38>20b63 39>53eb 3a>53f1 3b>5406 3c>549e 3d>5438 3e>5448 3f>5468 40>54a2 41>54f6",
    "42>5510 43>5553 44>5563 45>5584 46>5584 47>5599 48>55ab 49>55b3 4a>55c2 4b>5716 4c>5606",
    "4d>5717 4e>5651 4f>5674 50>5207 51>58ee 52>57ce 53>57f4 54>580d 55>578b 56>5832 57>5831",
    "58>58ac 59>214e4 5a>58f2 5b>58f7 5c>5906 5d>591a 5e>5922 5f>5962 60>216a8 61>216ea 62>59ec",
    "63>5a1b 64>5a27 65>59d8 66>5a66 67>36ee 68>36fc 69>5b08 6a>5b3e 6b>5b3e 6c>219c8 6d>5bc3",
    "6e>5bd8 6f>5be7 70>5bf3 71>21b18 72>5bff 73>5c06 74>5f53 75>5c22 76>3781 77>5c60 78>5c6e",
    "79>5cc0 7a>5c8d 7b>21de4 7c>5d43 7d>21de6 7e>5d6e 7f>5d6b 80>5d7c 81-82>5de1 83>382f",
    "84>5dfd 85>5e28 86>5e3d 87>5e69 88>3862 89>22183 8a>387c 8b>5eb0 8c>5eb3 8d>5eb6 8e>5eca",
    "8f>2a392 90>5efe 91>22331 92>22331 93>8201 94>5f22 95>5f22 96>38c7 97>232b8 98>261da",
    "99>5f62 9a>5f6b 9b>38e3 9c>5f9a 9d>5fcd 9e>5fd7 9f>5ff9 a0>6081 a1>393a a2>391c a3>6094",
    "a4>226d4 a5>60c7 a6>6148 a7>614c a8>614e a9>614c aa>617a ab>618e ac>61b2 ad>61a4 ae>61af",
    "af>61de b0>61f2 b1>61f6 b2>6210 b3>621b b4>625d b5>62b1 b6>62d4 b7>6350 b8>22b0c b9>633d",
    "ba>62fc bb>6368 bc>6383 bd>63e4 be>22bf1 bf>6422 c0>63c5 c1>63a9 c2>3a2e c3>6469 c4>647e",
    "c5>649d c6>6477 c7>3a6c c8>654f c9>656c ca>2300a cb>65e3 cc>66f8 cd>6649 ce>3b19 cf>6691",
    "d0>3b08 d1>3ae4 d2>5192 d3>5195 d4>6700 d5>669c d6>80ad d7>43d9 d8>6717 d9>671b da>6721",
    "db>675e dc>6753 dd>233c3 de>3b49 df>67fa e0>6785 e1>6852 e2>6885 e3>2346d e4>688e e5>681f",
    "e6>6914 e7>3b9d e8>6942 e9>69a3 ea>69ea eb>6aa8 ec>236a3 ed>6adb ee>3c18 ef>6b21 f0>238a7",
    "f1>6b54 f2>3c4e f3>6b72 f4>6b9f f5-f6>6bba f7>23a8d f8>21d0b f9>23afa fa>6c4e fb>23cbc",
    "fc>6cbf fd>6ccd fe>6c67 ff>6d16"]),
  (0x2f9, ["00>6d3e 01>6d77 02>6d41 03>6d69 04>6d78 05>6d85 06>23d1e 07>6d34 08>6e2f 09>6e6e",
    "0a>3d33 0b>6ecb 0c>6ec7 0d>23ed1 0e>6df9 0f>6f6e 10>23f5e 11>23f8e 12>6fc6 13>7039 14>701e",
    "15>701b 16>3d96 17>704a 18>707d 19>7077 1a>70ad 1b>20525 1c>7145 1d>24263 1e>719c 1f>243ab",
    "20>7228 21>7235 22>7250 23>24608 24>7280 25>7295 26>24735 27>24814 28>737a 29>738b 2a>3eac",
    "2b>73a5 2c>3eb8 2d>3eb8 2e>7447 2f>745c 30>7471 31>7485 32>74ca 33>3f1b 34>7524 35>24c36",
    "36>753e 37>24c92 38>7570 39>2219f 3a>7610 3b>24fa1 3c>24fb8 3d>25044 3e>3ffc 3f>4008",
    "40>76f4 41>250f3 42>250f2 43>25119 44>25133 45-46>771e 47>771f 48>774a 49>4039 4a>778b",
    "4b>4046 4c>4096 4d>2541d 4e>784e 4f>788c 50>78cc 51>40e3 52>25626 53>7956 54>2569a",
    "55>256c5 56>798f 57>79eb 58>412f 59>7a40 5a>7a4a 5b>7a4f 5c>2597c 5d>25aa7 5e>25aa7",
    "5f>7aee 60>4202 61>25bab 62>7bc6 63>7bc9 64>4227 65>25c80 66>7cd2 67>42a0 68>7ce8 69>7ce3",
    "6a>7d00 6b>25f86 6c>7d63 6d>4301 6e>7dc7 6f>7e02 70>7e45 71>4334 72>26228 73>26247 74>4359",
    "75>262d9 76>7f7a 77>2633e 78>7f95 79>7ffa 7a>8005 7b>264da 7c>26523 7d>8060 7e>265a8",
    "7f>8070 80>2335f 81>43d5 82>80b2 83>8103 84>440b 85>813e 86>5ab5 87>267a7 88>267b5",
    "89>23393 8a>2339c 8b>8201 8c>8204 8d>8f9e 8e>446b 8f>8291 90>828b 91>829d 92>52b3 93>82b1",
    "94>82b3 95>82bd 96>82e6 97>26b3c 98>82e5 99>831d 9a>8363 9b>83ad 9c>8323 9d>83bd 9e>83e7",
    "9f>8457 a0>8353 a1>83ca a2>83cc a3>83dc a4>26c36 a5>26d6b a6>26cd5 a7>452b a8>84f1 a9>84f3",
    "aa>8516 ab>273ca ac>8564 ad>26f2c ae>455d af>4561 b0>26fb1 b1>270d2 b2>456b b3>8650",
    "b4>865c b5>8667 b6>8669 b7>86a9 b8>8688 b9>870e ba>86e2 bb>8779 bc>8728 bd>876b be>8786",
    "bf>45d7 c0>87e1 c1>8801 c2>45f9 c3>8860 c4>8863 c5>27667 c6>88d7 c7>88de c8>4635 c9>88fa",
    "ca>34bb cb>278ae cc>27966 cd>46be ce>46c7 cf>8aa0 d0>8aed d1>8b8a d2>8c55 d3>27ca8 d4>8cab",
    "d5>8cc1 d6>8d1b d7>8d77 d8>27f2f d9>20804 da>8dcb db>8dbc dc>8df0 dd>208de de>8ed4 df>8f38",
    "e0>285d2 e1>285ed e2>9094 e3>90f1 e4>9111 e5>2872e e6>911b e7>9238 e8-e9>92d7 ea>927c",
    "eb>93f9 ec>9415 ed>28bfa ee>958b ef>4995 f0>95b7 f1>28d77 f2>49e6 f3>96c3 f4>5db2 f5>9723",
    "f6>29145 f7>2921a f8>4a6e f9>4a76 fa>97e0 fb>2940a fc>4ab2 fd>29496 fe>980b ff>980b"]),
  (0x2fa, ["00>9829 01>295b6 02>98e2 03>4b33 04>9929 05>99a7 06>99c2 07>99fe 08>4bce 09>29b30",
    "0a>9b12 0b>9c40 0c>9cfd 0d>4cce 0e>4ced 0f>9d67 10>2a0ce 11>4cf8 12>2a105 13>2a20e",
    "14>2a291 15>9ebb 16>4d56 17>9ef9 18>9efe 19>9f05 1a>9f0f 1b>9f16 1c>9f3b 1d>2a600"])]

end KconfigReference.Text
