/-! # Ideographs in double

Ideographs that are encoded twice, and radicals, are read as the unified ideograph.
-/
namespace BrokerRpc.DomainName

def ideographLines : List String :=
  ["2e9f 6bcd, 2ef3 9f9f, 2f00 4e00, 2f01 4e28, 2f02 4e36, 2f03 4e3f, 2f04 4e59, 2f05 4e85",
   "2f06 4e8c, 2f07 4ea0, 2f08 4eba, 2f09 513f, 2f0a 5165, 2f0b 516b, 2f0c 5182, 2f0d 5196",
   "2f0e 51ab, 2f0f 51e0, 2f10 51f5, 2f11 5200, 2f12 529b, 2f13 52f9, 2f14 5315, 2f15 531a",
   "2f16 5338, 2f17 5341, 2f18 535c, 2f19 5369, 2f1a 5382, 2f1b 53b6, 2f1c 53c8, 2f1d 53e3",
   "2f1e 56d7, 2f1f 571f, 2f20 58eb, 2f21 5902, 2f22 590a, 2f23 5915, 2f24 5927, 2f25 5973",
   "2f26 5b50, 2f27 5b80, 2f28 5bf8, 2f29 5c0f, 2f2a 5c22, 2f2b 5c38, 2f2c 5c6e, 2f2d 5c71",
   "2f2e 5ddb, 2f2f 5de5, 2f30 5df1, 2f31 5dfe, 2f32 5e72, 2f33 5e7a, 2f34 5e7f, 2f35 5ef4",
   "2f36 5efe, 2f37 5f0b, 2f38 5f13, 2f39 5f50, 2f3a 5f61, 2f3b 5f73, 2f3c 5fc3, 2f3d 6208",
   "2f3e 6236, 2f3f 624b, 2f40 652f, 2f41 6534, 2f42 6587, 2f43 6597, 2f44 65a4, 2f45 65b9",
   "2f46 65e0, 2f47 65e5, 2f48 66f0, 2f49 6708, 2f4a 6728, 2f4b 6b20, 2f4c 6b62, 2f4d 6b79",
   "2f4e 6bb3, 2f4f 6bcb, 2f50 6bd4, 2f51 6bdb, 2f52 6c0f, 2f53 6c14, 2f54 6c34, 2f55 706b",
   "2f56 722a, 2f57 7236, 2f58 723b, 2f59 723f, 2f5a 7247, 2f5b 7259, 2f5c 725b, 2f5d 72ac",
   "2f5e 7384, 2f5f 7389, 2f60 74dc, 2f61 74e6, 2f62 7518, 2f63 751f, 2f64 7528, 2f65 7530",
   "2f66 758b, 2f67 7592, 2f68 7676, 2f69 767d, 2f6a 76ae, 2f6b 76bf, 2f6c 76ee, 2f6d 77db",
   "2f6e 77e2, 2f6f 77f3, 2f70 793a, 2f71 79b8, 2f72 79be, 2f73 7a74, 2f74 7acb, 2f75 7af9",
   "2f76 7c73, 2f77 7cf8, 2f78 7f36, 2f79 7f51, 2f7a 7f8a, 2f7b 7fbd, 2f7c 8001, 2f7d 800c",
   "2f7e 8012, 2f7f 8033, 2f80 807f, 2f81 8089, 2f82 81e3, 2f83 81ea, 2f84 81f3, 2f85 81fc",
   "2f86 820c, 2f87 821b, 2f88 821f, 2f89 826e, 2f8a 8272, 2f8b 8278, 2f8c 864d, 2f8d 866b",
   "2f8e 8840, 2f8f 884c, 2f90 8863, 2f91 897e, 2f92 898b, 2f93 89d2, 2f94 8a00, 2f95 8c37",
   "2f96 8c46, 2f97 8c55, 2f98 8c78, 2f99 8c9d, 2f9a 8d64, 2f9b 8d70, 2f9c 8db3, 2f9d 8eab",
   "2f9e 8eca, 2f9f 8f9b, 2fa0 8fb0, 2fa1 8fb5, 2fa2 9091, 2fa3 9149, 2fa4 91c6, 2fa5 91cc",
   "2fa6 91d1, 2fa7 9577, 2fa8 9580, 2fa9 961c, 2faa 96b6, 2fab 96b9, 2fac 96e8, 2fad 9751",
   "2fae 975e, 2faf 9762, 2fb0 9769, 2fb1 97cb, 2fb2 97ed, 2fb3 97f3, 2fb4 9801, 2fb5 98a8",
   "2fb6 98db, 2fb7 98df, 2fb8 9996, 2fb9 9999, 2fba 99ac, 2fbb 9aa8, 2fbc 9ad8, 2fbd 9adf",
   "2fbe 9b25, 2fbf 9b2f, 2fc0 9b32, 2fc1 9b3c, 2fc2 9b5a, 2fc3 9ce5, 2fc4 9e75, 2fc5 9e7f",
   "2fc6 9ea5, 2fc7 9ebb, 2fc8 9ec3, 2fc9 9ecd, 2fca 9ed1, 2fcb 9ef9, 2fcc 9efd, 2fcd 9f0e",
   "2fce 9f13, 2fcf 9f20, 2fd0 9f3b, 2fd1 9f4a, 2fd2 9f52, 2fd3 9f8d, 2fd4 9f9c, 2fd5 9fa0",
   "f900 8c48, f901 66f4, f902 8eca, f903 8cc8, f904 6ed1, f905 4e32, f906 53e5, f907 9f9c",
   "f908 9f9c, f909 5951, f90a 91d1, f90b 5587, f90c 5948, f90d 61f6, f90e 7669, f90f 7f85",
   "f910 863f, f911 87ba, f912 88f8, f913 908f, f914 6a02, f915 6d1b, f916 70d9, f917 73de",
   "f918 843d, f919 916a, f91a 99f1, f91b 4e82, f91c 5375, f91d 6b04, f91e 721b, f91f 862d",
   "f920 9e1e, f921 5d50, f922 6feb, f923 85cd, f924 8964, f925 62c9, f926 81d8, f927 881f",
   "f928 5eca, f929 6717, f92a 6d6a, f92b 72fc, f92c 90ce, f92d 4f86, f92e 51b7, f92f 52de",
   "f930 64c4, f931 6ad3, f932 7210, f933 76e7, f934 8001, f935 8606, f936 865c, f937 8def",
   "f938 9732, f939 9b6f, f93a 9dfa, f93b 788c, f93c 797f, f93d 7da0, f93e 83c9, f93f 9304",
   "f940 9e7f, f941 8ad6, f942 58df, f943 5f04, f944 7c60, f945 807e, f946 7262, f947 78ca",
   "f948 8cc2, f949 96f7, f94a 58d8, f94b 5c62, f94c 6a13, f94d 6dda, f94e 6f0f, f94f 7d2f",
   "f950 7e37, f951 964b, f952 52d2, f953 808b, f954 51dc, f955 51cc, f956 7a1c, f957 7dbe",
   "f958 83f1, f959 9675, f95a 8b80, f95b 62cf, f95c 6a02, f95d 8afe, f95e 4e39, f95f 5be7",
   "f960 6012, f961 7387, f962 7570, f963 5317, f964 78fb, f965 4fbf, f966 5fa9, f967 4e0d",
   "f968 6ccc, f969 6578, f96a 7d22, f96b 53c3, f96c 585e, f96d 7701, f96e 8449, f96f 8aaa",
   "f970 6bba, f971 8fb0, f972 6c88, f973 62fe, f974 82e5, f975 63a0, f976 7565, f977 4eae",
   "f978 5169, f979 51c9, f97a 6881, f97b 7ce7, f97c 826f, f97d 8ad2, f97e 91cf, f97f 52f5",
   "f980 5442, f981 5973, f982 5eec, f983 65c5, f984 6ffe, f985 792a, f986 95ad, f987 9a6a",
   "f988 9e97, f989 9ece, f98a 529b, f98b 66c6, f98c 6b77, f98d 8f62, f98e 5e74, f98f 6190",
   "f990 6200, f991 649a, f992 6f23, f993 7149, f994 7489, f995 79ca, f996 7df4, f997 806f",
   "f998 8f26, f999 84ee, f99a 9023, f99b 934a, f99c 5217, f99d 52a3, f99e 54bd, f99f 70c8",
   "f9a0 88c2, f9a1 8aaa, f9a2 5ec9, f9a3 5ff5, f9a4 637b, f9a5 6bae, f9a6 7c3e, f9a7 7375",
   "f9a8 4ee4, f9a9 56f9, f9aa 5be7, f9ab 5dba, f9ac 601c, f9ad 73b2, f9ae 7469, f9af 7f9a",
   "f9b0 8046, f9b1 9234, f9b2 96f6, f9b3 9748, f9b4 9818, f9b5 4f8b, f9b6 79ae, f9b7 91b4",
   "f9b8 96b8, f9b9 60e1, f9ba 4e86, f9bb 50da, f9bc 5bee, f9bd 5c3f, f9be 6599, f9bf 6a02",
   "f9c0 71ce, f9c1 7642, f9c2 84fc, f9c3 907c, f9c4 9f8d, f9c5 6688, f9c6 962e, f9c7 5289",
   "f9c8 677b, f9c9 67f3, f9ca 6d41, f9cb 6e9c, f9cc 7409, f9cd 7559, f9ce 786b, f9cf 7d10",
   "f9d0 985e, f9d1 516d, f9d2 622e, f9d3 9678, f9d4 502b, f9d5 5d19, f9d6 6dea, f9d7 8f2a",
   "f9d8 5f8b, f9d9 6144, f9da 6817, f9db 7387, f9dc 9686, f9dd 5229, f9de 540f, f9df 5c65",
   "f9e0 6613, f9e1 674e, f9e2 68a8, f9e3 6ce5, f9e4 7406, f9e5 75e2, f9e6 7f79, f9e7 88cf",
   "f9e8 88e1, f9e9 91cc, f9ea 96e2, f9eb 533f, f9ec 6eba, f9ed 541d, f9ee 71d0, f9ef 7498",
   "f9f0 85fa, f9f1 96a3, f9f2 9c57, f9f3 9e9f, f9f4 6797, f9f5 6dcb, f9f6 81e8, f9f7 7acb",
   "f9f8 7b20, f9f9 7c92, f9fa 72c0, f9fb 7099, f9fc 8b58, f9fd 4ec0, f9fe 8336, f9ff 523a",
   "fa00 5207, fa01 5ea6, fa02 62d3, fa03 7cd6, fa04 5b85, fa05 6d1e, fa06 66b4, fa07 8f3b",
   "fa08 884c, fa09 964d, fa0a 898b, fa0b 5ed3, fa0c 5140, fa0d 55c0, fa10 585a, fa12 6674",
   "fa15 51de, fa16 732a, fa17 76ca, fa18 793c, fa19 795e, fa1a 7965, fa1b 798f, fa1c 9756",
   "fa1d 7cbe, fa1e 7fbd, fa20 8612, fa22 8af8, fa25 9038, fa26 90fd, fa2a 98ef, fa2b 98fc",
   "fa2c 9928, fa2d 9db4, fa2e 90de, fa2f 96b7, fa30 4fae, fa31 50e7, fa32 514d, fa33 52c9",
   "fa34 52e4, fa35 5351, fa36 559d, fa37 5606, fa38 5668, fa39 5840, fa3a 58a8, fa3b 5c64",
   "fa3c 5c6e, fa3d 6094, fa3e 6168, fa3f 618e, fa40 61f2, fa41 654f, fa42 65e2, fa43 6691",
   "fa44 6885, fa45 6d77, fa46 6e1a, fa47 6f22, fa48 716e, fa49 722b, fa4a 7422, fa4b 7891",
   "fa4c 793e, fa4d 7949, fa4e 7948, fa4f 7950, fa50 7956, fa51 795d, fa52-fa53 798d, fa54 7a40",
   "fa55 7a81, fa56 7bc0, fa57 7df4, fa58 7e09, fa59 7e41, fa5a 7f72, fa5b 8005, fa5c 81ed",
   "fa5d 8279, fa5e 8279, fa5f 8457, fa60 8910, fa61 8996, fa62 8b01, fa63 8b39, fa64 8cd3",
   "fa65 8d08, fa66 8fb6, fa67 9038, fa68 96e3, fa69 97ff, fa6a 983b, fa6b 6075, fa6c 242ee",
   "fa6d 8218, fa70 4e26, fa71 51b5, fa72 5168, fa73 4f80, fa74 5145, fa75 5180, fa76 52c7",
   "fa77 52fa, fa78 559d, fa79 5555, fa7a 5599, fa7b 55e2, fa7c 585a, fa7d 58b3, fa7e 5944",
   "fa7f 5954, fa80 5a62, fa81 5b28, fa82 5ed2, fa83 5ed9, fa84 5f69, fa85 5fad, fa86 60d8",
   "fa87 614e, fa88 6108, fa89 618e, fa8a 6160, fa8b 61f2, fa8c 6234, fa8d 63c4, fa8e 641c",
   "fa8f 6452, fa90 6556, fa91 6674, fa92 6717, fa93 671b, fa94 6756, fa95 6b79, fa96 6bba",
   "fa97 6d41, fa98 6edb, fa99 6ecb, fa9a 6f22, fa9b 701e, fa9c 716e, fa9d 77a7, fa9e 7235",
   "fa9f 72af, faa0 732a, faa1 7471, faa2 7506, faa3 753b, faa4 761d, faa5 761f, faa6 76ca",
   "faa7 76db, faa8 76f4, faa9 774a, faaa 7740, faab 78cc, faac 7ab1, faad 7bc0, faae 7c7b",
   "faaf 7d5b, fab0 7df4, fab1 7f3e, fab2 8005, fab3 8352, fab4 83ef, fab5 8779, fab6 8941",
   "fab7 8986, fab8 8996, fab9 8abf, faba 8af8, fabb 8acb, fabc 8b01, fabd 8afe, fabe 8aed",
   "fabf 8b39, fac0 8b8a, fac1 8d08, fac2 8f38, fac3 9072, fac4 9199, fac5 9276, fac6 967c",
   "fac7 96e3, fac8 9756, fac9 97db, faca 97ff, facb 980b, facc 983b, facd 9b12, face 9f9c",
   "facf 2284a, fad0 22844, fad1 233d5, fad2 3b9d, fad3 4018, fad4 4039, fad5 25249, fad6 25cd0",
   "fad7 27ed3, fad8 9f43, fad9 9f8e, 2f800 4e3d, 2f801 4e38, 2f802 4e41, 2f803 20122, 2f804 4f60",
   "2f805 4fae, 2f806 4fbb, 2f807 5002, 2f808 507a, 2f809 5099, 2f80a 50e7, 2f80b 50cf, 2f80c 349e",
   "2f80d 2063a, 2f80e 514d, 2f80f 5154, 2f810 5164, 2f811 5177, 2f812 2051c, 2f813 34b9",
   "2f814 5167, 2f815 518d, 2f816 2054b, 2f817 5197, 2f818 51a4, 2f819 4ecc, 2f81a 51ac",
   "2f81b 51b5, 2f81c 291df, 2f81d 51f5, 2f81e 5203, 2f81f 34df, 2f820 523b, 2f821 5246",
   "2f822 5272, 2f823 5277, 2f824 3515, 2f825 52c7, 2f826 52c9, 2f827 52e4, 2f828 52fa",
   "2f829-2f82a 5305, 2f82b 5317, 2f82c 5349, 2f82d 5351, 2f82e 535a, 2f82f 5373, 2f830~2f832 537d",
   "2f831 537f, 2f833 537f, 2f834 20a2c, 2f835 7070, 2f836 53ca, 2f837 53df, 2f838 20b63",
   "2f839 53eb, 2f83a 53f1, 2f83b 5406, 2f83c 549e, 2f83d 5438, 2f83e 5448, 2f83f 5468, 2f840 54a2",
   "2f841 54f6, 2f842 5510, 2f843 5553, 2f844 5563, 2f845 5584, 2f846 5584, 2f847 5599, 2f848 55ab",
   "2f849 55b3, 2f84a 55c2, 2f84b 5716, 2f84c 5606, 2f84d 5717, 2f84e 5651, 2f84f 5674, 2f850 5207",
   "2f851 58ee, 2f852 57ce, 2f853 57f4, 2f854 580d, 2f855 578b, 2f856 5832, 2f857 5831, 2f858 58ac",
   "2f859 214e4, 2f85a 58f2, 2f85b 58f7, 2f85c 5906, 2f85d 591a, 2f85e 5922, 2f85f 5962",
   "2f860 216a8, 2f861 216ea, 2f862 59ec, 2f863 5a1b, 2f864 5a27, 2f865 59d8, 2f866 5a66",
   "2f867 36ee, 2f868 36fc, 2f869 5b08, 2f86a 5b3e, 2f86b 5b3e, 2f86c 219c8, 2f86d 5bc3",
   "2f86e 5bd8, 2f86f 5be7, 2f870 5bf3, 2f871 21b18, 2f872 5bff, 2f873 5c06, 2f874 5f53",
   "2f875 5c22, 2f876 3781, 2f877 5c60, 2f878 5c6e, 2f879 5cc0, 2f87a 5c8d, 2f87b~2f87d 21de4",
   "2f87c 5d43, 2f87e 5d6e, 2f87f 5d6b, 2f880 5d7c, 2f881-2f882 5de1, 2f883 382f, 2f884 5dfd",
   "2f885 5e28, 2f886 5e3d, 2f887 5e69, 2f888 3862, 2f889 22183, 2f88a 387c, 2f88b 5eb0",
   "2f88c 5eb3, 2f88d 5eb6, 2f88e 5eca, 2f88f 2a392, 2f890 5efe, 2f891 22331, 2f892 22331",
   "2f893 8201, 2f894 5f22, 2f895 5f22, 2f896 38c7, 2f897 232b8, 2f898 261da, 2f899 5f62",
   "2f89a 5f6b, 2f89b 38e3, 2f89c 5f9a, 2f89d 5fcd, 2f89e 5fd7, 2f89f 5ff9, 2f8a0 6081, 2f8a1 393a",
   "2f8a2 391c, 2f8a3 6094, 2f8a4 226d4, 2f8a5 60c7, 2f8a6 6148, 2f8a7 614c, 2f8a8 614e",
   "2f8a9 614c, 2f8aa 617a, 2f8ab 618e, 2f8ac 61b2, 2f8ad 61a4, 2f8ae 61af, 2f8af 61de, 2f8b0 61f2",
   "2f8b1 61f6, 2f8b2 6210, 2f8b3 621b, 2f8b4 625d, 2f8b5 62b1, 2f8b6 62d4, 2f8b7 6350",
   "2f8b8 22b0c, 2f8b9 633d, 2f8ba 62fc, 2f8bb 6368, 2f8bc 6383, 2f8bd 63e4, 2f8be 22bf1",
   "2f8bf 6422, 2f8c0 63c5, 2f8c1 63a9, 2f8c2 3a2e, 2f8c3 6469, 2f8c4 647e, 2f8c5 649d, 2f8c6 6477",
   "2f8c7 3a6c, 2f8c8 654f, 2f8c9 656c, 2f8ca 2300a, 2f8cb 65e3, 2f8cc 66f8, 2f8cd 6649",
   "2f8ce 3b19, 2f8cf 6691, 2f8d0 3b08, 2f8d1 3ae4, 2f8d2 5192, 2f8d3 5195, 2f8d4 6700, 2f8d5 669c",
   "2f8d6 80ad, 2f8d7 43d9, 2f8d8 6717, 2f8d9 671b, 2f8da 6721, 2f8db 675e, 2f8dc 6753",
   "2f8dd 233c3, 2f8de 3b49, 2f8df 67fa, 2f8e0 6785, 2f8e1 6852, 2f8e2 6885, 2f8e3 2346d",
   "2f8e4 688e, 2f8e5 681f, 2f8e6 6914, 2f8e7 3b9d, 2f8e8 6942, 2f8e9 69a3, 2f8ea 69ea, 2f8eb 6aa8",
   "2f8ec 236a3, 2f8ed 6adb, 2f8ee 3c18, 2f8ef 6b21, 2f8f0 238a7, 2f8f1 6b54, 2f8f2 3c4e",
   "2f8f3 6b72, 2f8f4 6b9f, 2f8f5-2f8f6 6bba, 2f8f7 23a8d, 2f8f8 21d0b, 2f8f9 23afa, 2f8fa 6c4e",
   "2f8fb 23cbc, 2f8fc 6cbf, 2f8fd 6ccd, 2f8fe 6c67, 2f8ff 6d16, 2f900 6d3e, 2f901 6d77",
   "2f902 6d41, 2f903 6d69, 2f904 6d78, 2f905 6d85, 2f906 23d1e, 2f907 6d34, 2f908 6e2f",
   "2f909 6e6e, 2f90a 3d33, 2f90b 6ecb, 2f90c 6ec7, 2f90d 23ed1, 2f90e 6df9, 2f90f 6f6e",
   "2f910 23f5e, 2f911 23f8e, 2f912 6fc6, 2f913 7039, 2f914 701e, 2f915 701b, 2f916 3d96",
   "2f917 704a, 2f918 707d, 2f919 7077, 2f91a 70ad, 2f91b 20525, 2f91c 7145, 2f91d 24263",
   "2f91e 719c, 2f91f 243ab, 2f920 7228, 2f921 7235, 2f922 7250, 2f923 24608, 2f924 7280",
   "2f925 7295, 2f926 24735, 2f927 24814, 2f928 737a, 2f929 738b, 2f92a 3eac, 2f92b 73a5",
   "2f92c 3eb8, 2f92d 3eb8, 2f92e 7447, 2f92f 745c, 2f930 7471, 2f931 7485, 2f932 74ca, 2f933 3f1b",
   "2f934 7524, 2f935 24c36, 2f936 753e, 2f937 24c92, 2f938 7570, 2f939 2219f, 2f93a 7610",
   "2f93b 24fa1, 2f93c 24fb8, 2f93d 25044, 2f93e 3ffc, 2f93f 4008, 2f940 76f4, 2f941 250f3",
   "2f942 250f2, 2f943 25119, 2f944 25133, 2f945-2f946 771e, 2f947 771f, 2f948 774a, 2f949 4039",
   "2f94a 778b, 2f94b 4046, 2f94c 4096, 2f94d 2541d, 2f94e 784e, 2f94f 788c, 2f950 78cc",
   "2f951 40e3, 2f952 25626, 2f953 7956, 2f954 2569a, 2f955 256c5, 2f956 798f, 2f957 79eb",
   "2f958 412f, 2f959 7a40, 2f95a 7a4a, 2f95b 7a4f, 2f95c 2597c, 2f95d 25aa7, 2f95e 25aa7",
   "2f95f 7aee, 2f960 4202, 2f961 25bab, 2f962 7bc6, 2f963 7bc9, 2f964 4227, 2f965 25c80",
   "2f966 7cd2, 2f967 42a0, 2f968 7ce8, 2f969 7ce3, 2f96a 7d00, 2f96b 25f86, 2f96c 7d63",
   "2f96d 4301, 2f96e 7dc7, 2f96f 7e02, 2f970 7e45, 2f971 4334, 2f972 26228, 2f973 26247",
   "2f974 4359, 2f975 262d9, 2f976 7f7a, 2f977 2633e, 2f978 7f95, 2f979 7ffa, 2f97a 8005",
   "2f97b 264da, 2f97c 26523, 2f97d 8060, 2f97e 265a8, 2f97f 8070, 2f980 2335f, 2f981 43d5",
   "2f982 80b2, 2f983 8103, 2f984 440b, 2f985 813e, 2f986 5ab5, 2f987 267a7, 2f988 267b5",
   "2f989 23393, 2f98a 2339c, 2f98b 8201, 2f98c 8204, 2f98d 8f9e, 2f98e 446b, 2f98f 8291",
   "2f990 828b, 2f991 829d, 2f992 52b3, 2f993 82b1, 2f994 82b3, 2f995 82bd, 2f996 82e6",
   "2f997 26b3c, 2f998 82e5, 2f999 831d, 2f99a 8363, 2f99b 83ad, 2f99c 8323, 2f99d 83bd",
   "2f99e 83e7, 2f99f 8457, 2f9a0 8353, 2f9a1 83ca, 2f9a2 83cc, 2f9a3 83dc, 2f9a4 26c36",
   "2f9a5 26d6b, 2f9a6 26cd5, 2f9a7 452b, 2f9a8 84f1, 2f9a9 84f3, 2f9aa 8516, 2f9ab 273ca",
   "2f9ac 8564, 2f9ad 26f2c, 2f9ae 455d, 2f9af 4561, 2f9b0 26fb1, 2f9b1 270d2, 2f9b2 456b",
   "2f9b3 8650, 2f9b4 865c, 2f9b5 8667, 2f9b6 8669, 2f9b7 86a9, 2f9b8 8688, 2f9b9 870e, 2f9ba 86e2",
   "2f9bb 8779, 2f9bc 8728, 2f9bd 876b, 2f9be 8786, 2f9bf 45d7, 2f9c0 87e1, 2f9c1 8801, 2f9c2 45f9",
   "2f9c3 8860, 2f9c4 8863, 2f9c5 27667, 2f9c6 88d7, 2f9c7 88de, 2f9c8 4635, 2f9c9 88fa",
   "2f9ca 34bb, 2f9cb 278ae, 2f9cc 27966, 2f9cd 46be, 2f9ce 46c7, 2f9cf 8aa0, 2f9d0 8aed",
   "2f9d1 8b8a, 2f9d2 8c55, 2f9d3 27ca8, 2f9d4 8cab, 2f9d5 8cc1, 2f9d6 8d1b, 2f9d7 8d77",
   "2f9d8 27f2f, 2f9d9 20804, 2f9da 8dcb, 2f9db 8dbc, 2f9dc 8df0, 2f9dd 208de, 2f9de 8ed4",
   "2f9df 8f38, 2f9e0 285d2, 2f9e1 285ed, 2f9e2 9094, 2f9e3 90f1, 2f9e4 9111, 2f9e5 2872e",
   "2f9e6 911b, 2f9e7 9238, 2f9e8-2f9e9 92d7, 2f9ea 927c, 2f9eb 93f9, 2f9ec 9415, 2f9ed 28bfa",
   "2f9ee 958b, 2f9ef 4995, 2f9f0 95b7, 2f9f1 28d77, 2f9f2 49e6, 2f9f3 96c3, 2f9f4 5db2",
   "2f9f5 9723, 2f9f6 29145, 2f9f7 2921a, 2f9f8 4a6e, 2f9f9 4a76, 2f9fa 97e0, 2f9fb 2940a",
   "2f9fc 4ab2, 2f9fd 29496, 2f9fe 980b, 2f9ff 980b, 2fa00 9829, 2fa01 295b6, 2fa02 98e2",
   "2fa03 4b33, 2fa04 9929, 2fa05 99a7, 2fa06 99c2, 2fa07 99fe, 2fa08 4bce, 2fa09 29b30",
   "2fa0a 9b12, 2fa0b 9c40, 2fa0c 9cfd, 2fa0d 4cce, 2fa0e 4ced, 2fa0f 9d67, 2fa10 2a0ce",
   "2fa11 4cf8, 2fa12 2a105, 2fa13 2a20e, 2fa14 2a291, 2fa15 9ebb, 2fa16 4d56, 2fa17 9ef9",
   "2fa18 9efe, 2fa19 9f05, 2fa1a 9f0f, 2fa1b 9f16, 2fa1c 9f3b, 2fa1d 2a600"]

end BrokerRpc.DomainName
